import TypeSchema.Proofs.Annotations
import TypeSchema.Proofs.Building.Derivations

/-!
# Keywords that doc comments give

Before a rule is applied, the schema of a subject has the keywords of its doc comments, and of that of
the property it is built for.  Which these can be is known from the tags of the graph: a doc comment has
no keyword but `description` and those that one of the tags enters (`Catalog.IsCommented`).
-/

set_option autoImplicit false

namespace TypeSchema

namespace Definition

variable {P Q : String → Prop} {definition other : Definition} {key : String} {value : Json}

/-- The predicate holds of all keywords of the schema. -/
def OnlyKeys (P : String → Prop) (definition : Definition) : Prop :=
  ∀ entry ∈ definition, P entry.1

namespace OnlyKeys

theorem mono (h : definition.OnlyKeys P) (hmono : ∀ key, P key → Q key) : definition.OnlyKeys Q :=
  fun entry hmem => hmono _ (h entry hmem)

theorem empty : Definition.empty.OnlyKeys P :=
  List.forall_mem_nil _

theorem insert (h : definition.OnlyKeys P) (hkey : P key) :
    (definition.insert key value).OnlyKeys P :=
  Dict.forall_mem_insert h hkey

theorem merge (h : definition.OnlyKeys P) (hother : other.OnlyKeys P) :
    (definition.merge other).OnlyKeys P :=
  Dict.forall_mem_extend h hother

theorem and (h : definition.OnlyKeys P) (h' : definition.OnlyKeys Q) :
    definition.OnlyKeys fun key => P key ∧ Q key :=
  fun entry hmem => ⟨h entry hmem, h' entry hmem⟩

theorem of_not_contains (h : definition.contains key = false) : definition.OnlyKeys (· ≠ key) := by
  rintro entry hmem rfl
  have hcontains : definition.contains entry.1 = true :=
    Dict.contains_iff_mem_keys.2 (List.mem_map_of_mem hmem)
  rw [h] at hcontains
  cases hcontains

theorem refAnnotations : definition.refAnnotations.OnlyKeys (· ∈ descriptive) :=
  fun _ hmem => List.contains_iff_mem.1 (List.mem_filter.1 hmem).2

theorem not_contains (h : definition.OnlyKeys P) (hkey : ¬P key) :
    definition.contains key = false := by
  rw [← Bool.not_eq_true, contains, Dict.contains_iff_mem_keys, Dict.keys]
  intro hmem
  obtain ⟨entry, hentry, rfl⟩ := List.mem_map.1 hmem
  exact hkey (h entry hentry)

end OnlyKeys

end Definition

namespace Catalog

variable {catalog : Catalog} {owner : Owner} {symbols : List SymbolId} {annotations : Annotations}

/-- A doc comment of the graph may have the keyword. -/
def IsCommented (catalog : Catalog) (key : String) : Prop :=
  key = "description" ∨ ∃ symbol ∈ catalog.graph.symbols.toList, ∃ tag ∈ symbol.tags,
    catalog.reader.entered? tag = some key

/-- A doc comment of the graph may have something left out. -/
def Ignores (catalog : Catalog) : Prop :=
  ∃ symbol ∈ catalog.graph.symbols.toList, ∃ tag ∈ symbol.tags, tag.name = "ignore"

theorem onlyKeys_extend {extended : Annotations} {symbol : Symbol}
    (h : annotations.definition.OnlyKeys catalog.IsCommented)
    (hsymbol : symbol ∈ catalog.graph.symbols.toList)
    (hextend : catalog.reader.extend annotations symbol = .ok extended) :
    extended.definition.OnlyKeys catalog.IsCommented :=
  AnnotationReader.extend_induction (P := fun a => a.definition.OnlyKeys catalog.IsCommented) h
    (fun _ _ h => h.insert (.inl rfl))
    (fun _ tag htag _ _ h hkey _ => h.insert (.inr ⟨symbol, hsymbol, tag, htag, hkey⟩))
    (fun _ _ _ h _ => h) hextend

/-- The annotations of symbols have keywords that doc comments give. -/
theorem onlyKeys_description (h : catalog.description symbols = .ok annotations) :
    annotations.definition.OnlyKeys catalog.IsCommented :=
  description_induction (P := fun a => a.definition.OnlyKeys catalog.IsCommented) .empty
    (fun _ _ _ _ h hsymbol hextend => onlyKeys_extend h (TypeGraph.mem_symbols hsymbol) hextend) h

/-- So have those of an owner. -/
theorem Describes.onlyKeys (h : catalog.Describes owner) :
    owner.annotations.definition.OnlyKeys catalog.IsCommented := by
  obtain ⟨symbol, hsymbol, hread⟩ := h
  exact onlyKeys_extend .empty (TypeGraph.mem_symbols hsymbol) hread

theorem onlyKeys_ownerKeywords {owner : Option Owner}
    (h : ∀ o, owner = some o → catalog.Describes o) :
    (ownerKeywords owner).OnlyKeys catalog.IsCommented := by
  cases owner with
  | none => exact .empty
  | some o => exact (h o rfl).onlyKeys

/-- An owner is ignored because a tag says so. -/
theorem Describes.ignores (h : catalog.Describes owner)
    (hignored : owner.annotations.isIgnored = true) : catalog.Ignores := by
  obtain ⟨symbol, hsymbol, hread⟩ := h
  have hothers : ∀ name ∈ owner.annotations.others, ∃ tag ∈ symbol.tags, tag.name = name := by
    refine AnnotationReader.extend_induction
      (P := fun a => ∀ name ∈ a.others, ∃ tag ∈ symbol.tags, tag.name = name)
      (List.forall_mem_nil _) (fun _ _ h => h) (fun _ _ _ _ _ h _ _ => h)
      (fun a tag htag h _ name hname => ?_) hread
    rcases mem_insertName.1 hname with rfl | hold
    · exact ⟨tag, htag, rfl⟩
    · exact h name hold
  obtain ⟨tag, htag, hname⟩ := hothers "ignore" (List.contains_iff_mem.1 hignored)
  exact ⟨symbol, TypeGraph.mem_symbols hsymbol, tag, htag, hname⟩

end Catalog

end TypeSchema
