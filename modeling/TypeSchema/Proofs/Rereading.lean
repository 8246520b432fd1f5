import Mathlib.Data.List.Induction
import TypeSchema.Json.Printer
import TypeSchema.Proofs.Annotations

/-!
# Reading a doc comment again

A type is often annotated by one symbol twice, as the symbol that a property names and as the symbol of
the type.  The second time changes nothing (**`AnnotationReader.extend_idempotent`**).

What a doc comment enters does not depend on what is there, so reading it is to make the same changes in
order (`extendBy_resolve`).  A change of a definition looks at the one key that it writes, and so a list of
changes can be taken apart by key: made twice they leave what they leave made once, if that holds of the
changes of each key (`Dict.updateAll_updateAll`).  The changes of one key are values that replace what is
there, and values in an object that is there.  Either one of the former comes last of its kind and settles
the rest, or there are only the latter, and these are changes of the object, to which the same argument
applies (`slot_slot`).
-/

set_option autoImplicit false

namespace TypeSchema

/-! ## Changes of a dictionary -/

namespace Dict

universe u

/-- A change of what is under a key, which may look at what is there. -/
structure Update (α : Type u) where
  key : String
  value : Option α → α

variable {α : Type u} {d rest : Dict α} {key : String} {found : Option α} {value : α}
  {updates : List (Update α)}

/-- Makes a change. -/
def update (d : Dict α) (change : Update α) : Dict α :=
  insert d change.key (change.value (get? d change.key))

/-- Makes changes in order. -/
def updateAll (d : Dict α) (updates : List (Update α)) : Dict α :=
  updates.foldl update d

/-- What the changes make of the value under one key. -/
def slot (updates : List (Update α)) (key : String) (found : Option α) : Option α :=
  updates.foldl (fun found change => if change.key = key then some (change.value found) else found)
    found

theorem get?_update (change : Update α) : get? (update d change) key =
    if change.key = key then some (change.value (get? d key)) else get? d key := by
  rw [update, get?_insert]
  split
  · next heq => rw [heq]
  · rfl

theorem get?_updateAll : get? (updateAll d updates) key = slot updates key (get? d key) := by
  induction updates generalizing d with
  | nil => rfl
  | cons change updates ih =>
    have hstep := ih (d := update d change)
    rw [get?_update] at hstep
    exact hstep

theorem contains_updateAll_of_contains (h : contains d key = true) :
    contains (updateAll d updates) key = true := by
  induction updates generalizing d with
  | nil => exact h
  | cons change updates ih =>
    refine ih (d := update d change) ?_
    rw [update, contains_insert, h, Bool.or_true]

theorem contains_updateAll {change : Update α} (h : change ∈ updates) :
    contains (updateAll d updates) change.key = true := by
  induction updates generalizing d with
  | nil => cases h
  | cons first updates ih =>
    rcases List.mem_cons.1 h with rfl | h
    · refine contains_updateAll_of_contains (d := update d change) ?_
      simp [update, contains_insert]
    · exact ih h

theorem slot_concat (updates : List (Update α)) (change : Update α) : slot (updates ++ [change]) key found =
    if change.key = key then some (change.value (slot updates key found)) else slot updates key found := by
  rw [slot, List.foldl_concat]
  rfl

/-- The changes of other keys do not count. -/
theorem slot_filter_ne {other : String} (h : key ≠ other) :
    slot (updates.filter fun change => change.key ≠ other) key found = slot updates key found := by
  induction updates generalizing found with
  | nil => rfl
  | cons change updates ih =>
    by_cases hother : change.key = other
    · have hkey : ¬change.key = key := fun heq => h (heq.symm.trans hother)
      rw [List.filter_cons_of_neg (by simpa using hother), ih]
      simp [slot, hkey]
    · rw [List.filter_cons_of_pos (by simpa using hother)]
      exact ih

theorem slot_eq_self (h : ∀ change ∈ updates, change.key ≠ key) : slot updates key found = found := by
  induction updates with
  | nil => rfl
  | cons change updates ih =>
    obtain ⟨hfirst, hrest⟩ := List.forall_mem_cons.1 h
    simpa [slot, hfirst] using ih hrest

/-- Changes are made at the first entry, if they are of its key, and else behind it. -/
theorem updateAll_cons (updates : List (Update α)) (key : String) (value : α) (rest : Dict α) :
    ∃ result, slot updates key (some value) = some result ∧
      updateAll ((key, value) :: rest) updates =
        (key, result) :: updateAll rest (updates.filter fun change => change.key ≠ key) := by
  induction updates generalizing value rest with
  | nil => exact ⟨value, rfl, rfl⟩
  | cons change updates ih =>
    by_cases hkey : change.key = key
    · obtain ⟨result, hresult, hrest⟩ := ih (change.value (some value)) rest
      refine ⟨result, by simpa [slot, hkey] using hresult, ?_⟩
      rw [List.filter_cons_of_neg (by simpa using hkey), ← hrest]
      simp [updateAll, update, get?, insert, hkey]
    · have hne : ¬key = change.key := fun heq => hkey heq.symm
      obtain ⟨result, hresult, hrest⟩ := ih value (update rest change)
      refine ⟨result, by simpa [slot, hkey] using hresult, ?_⟩
      rw [List.filter_cons_of_pos (by simpa using hkey)]
      have hfirst : update ((key, value) :: rest) change = (key, value) :: update rest change := by
        simp [update, get?, insert, hne]
      show updateAll (update ((key, value) :: rest) change) updates = _
      rw [hfirst, hrest]
      rfl

/-- Changes of keys that are there, and that make nothing else of their values, change nothing. -/
theorem updateAll_eq_self (hkeys : ∀ change ∈ updates, contains d change.key = true)
    (hvalues : ∀ key, slot updates key (get? d key) = get? d key) : updateAll d updates = d := by
  induction d generalizing updates with
  | nil =>
    cases updates with
    | nil => rfl
    | cons change updates => cases hkeys change List.mem_cons_self
  | cons entry rest ih =>
    obtain ⟨first, value⟩ := entry
    obtain ⟨result, hresult, hupdate⟩ := updateAll_cons updates first value rest
    have hvalue := hvalues first
    rw [get?, if_pos rfl, hresult] at hvalue
    rw [hupdate, Option.some.inj hvalue, ih]
    · intro change hchange
      obtain ⟨hmem, hne⟩ := List.mem_filter.1 hchange
      have hother : ¬first = change.key := fun heq => of_decide_eq_true hne heq.symm
      simpa [contains, get?, hother] using hkeys change hmem
    · intro key
      by_cases hkey : key = first
      · subst hkey
        exact slot_eq_self fun change hchange => of_decide_eq_true (List.mem_filter.1 hchange).2
      · have hother := hvalues key
        rw [get?, if_neg fun heq => hkey heq.symm] at hother
        rw [slot_filter_ne hkey, hother]

/-- **Changes that are made twice leave what they leave made once**, if that holds of those of each key. -/
theorem updateAll_updateAll
    (h : ∀ key found, slot updates key (slot updates key found) = slot updates key found) :
    updateAll (updateAll d updates) updates = updateAll d updates := by
  refine updateAll_eq_self (fun change hchange => contains_updateAll hchange) fun key => ?_
  rw [get?_updateAll, h]

/-- Entries that are written over what is there. -/
def constants (entries : List (String × α)) : List (Update α) :=
  entries.map fun entry => ⟨entry.1, fun _ => entry.2⟩

theorem extend_eq_updateAll (entries : List (String × α)) :
    extend d entries = updateAll d (constants entries) := by
  rw [updateAll, constants, List.foldl_map]
  rfl

/-- An entry is found afterwards, whatever was there, or no entry has the key. -/
theorem slot_constants (entries : List (String × α)) (key : String) :
    (∃ value, ∀ found, slot (constants entries) key found = some value) ∨
      ∀ found, slot (constants entries) key found = found := by
  induction entries with
  | nil => exact .inr fun _ => rfl
  | cons entry entries ih =>
    rcases ih with ⟨value, hvalue⟩ | hnone
    · exact .inl ⟨value, fun _ => hvalue _⟩
    · by_cases hkey : entry.1 = key
      · refine .inl ⟨entry.2, fun found => ?_⟩
        simpa [slot, constants, hkey] using hnone (some entry.2)
      · refine .inr fun found => ?_
        simpa [slot, constants, hkey] using hnone found

/-- Entries that are written again change nothing. -/
theorem extend_extend_self (d : Dict α) (entries : List (String × α)) :
    extend (extend d entries) entries = extend d entries := by
  rw [extend_eq_updateAll, extend_eq_updateAll]
  refine updateAll_updateAll fun key found => ?_
  rcases slot_constants entries key with ⟨value, hvalue⟩ | hnone
  · rw [hvalue, hvalue]
  · rw [hnone, hnone]

end Dict

/-! ## Names -/

section Names

variable {name other : String} {names listed : List String}

theorem insertName_insertName_self (name : String) (listed : List String) :
    insertName name (insertName name listed) = insertName name listed := by
  induction listed with
  | nil => simp [insertName]
  | cons first rest ih =>
    rw [insertName]
    split
    · simp [insertName]
    · split
      · next hlt heq => rw [insertName, if_neg hlt, if_pos heq]
      · next hlt hne => rw [insertName, if_neg hlt, if_neg hne, ih]

/-- A name that is entered already stays so. -/
theorem insertName_insertName_of_eq (h : insertName name listed = listed) :
    insertName name (insertName other listed) = insertName other listed := by
  induction listed with
  | nil => cases h
  | cons first rest ih =>
    rw [insertName] at h
    split at h
    · exact absurd (congrArg List.length h) (by simp)
    · next hlt =>
      rw [insertName]
      split
      · -- The other name comes first, before everything that is there.
        next hother =>
        have hne : ¬name = other := fun heq => hlt (heq ▸ hother)
        have hge : ¬name < other := fun hname => hlt (String.lt_trans hname hother)
        rw [insertName, if_neg hge, if_neg hne, insertName, if_neg hlt, h]
      · split
        · rw [insertName, if_neg hlt, h]
        · split at h
          · next heq => rw [insertName, if_neg hlt, if_pos heq]
          · next hne => rw [insertName, if_neg hlt, if_neg hne, ih (List.cons.inj h).2]

/-- Enters names in order. -/
def insertNames (names listed : List String) : List String :=
  names.foldl (fun listed name => insertName name listed) listed

theorem insertName_insertNames_of_eq (h : insertName name listed = listed) :
    insertName name (insertNames names listed) = insertNames names listed := by
  induction names generalizing listed with
  | nil => exact h
  | cons first names ih => exact ih (insertName_insertName_of_eq h)

theorem insertName_insertNames (h : name ∈ names) :
    insertName name (insertNames names listed) = insertNames names listed := by
  induction names generalizing listed with
  | nil => cases h
  | cons first names ih =>
    rcases List.mem_cons.1 h with rfl | h
    · show insertName name (insertNames names (insertName name listed)) = _
      exact insertName_insertNames_of_eq (insertName_insertName_self name listed)
    · exact ih h

theorem insertNames_eq_self (h : ∀ name ∈ names, insertName name listed = listed) :
    insertNames names listed = listed := by
  induction names with
  | nil => rfl
  | cons first names ih =>
    obtain ⟨hfirst, hrest⟩ := List.forall_mem_cons.1 h
    show insertNames names (insertName first listed) = listed
    rw [hfirst, ih hrest]

/-- Names that are entered again change nothing. -/
theorem insertNames_insertNames (names listed : List String) :
    insertNames names (insertNames names listed) = insertNames names listed :=
  insertNames_eq_self fun _ h => insertName_insertNames h

end Names

/-! ## Remarks -/

namespace Annotations

/-- What a doc comment says at one place: a value under a key, a value in the object under a parent, or
the name of a tag. -/
inductive Remark
  | plain (key : String) (value : Json)
  | nested (parent key : String) (value : Json)
  | named (name : String)

/-- Enters a remark. -/
def enter (annotations : Annotations) : Remark → Annotations
  | .plain key value => annotations.insert key value
  | .nested parent key value => annotations.nest parent key value
  | .named name => annotations.remember name

/-- The fields of an object; anything else has none. -/
def fieldsOf (found : Option Json) : Dict Json :=
  (found.bind Json.fields?).getD []

namespace Remark

/-- The change of the definition. -/
def update? : Remark → Option (Dict.Update Json)
  | .plain key value => some ⟨key, fun _ => value⟩
  | .nested parent key value =>
    some ⟨parent, fun found => .object (Dict.insert (fieldsOf found) key value)⟩
  | .named _ => none

/-- The name to be remembered. -/
def name? : Remark → Option String
  | .named name => some name
  | _ => none

end Remark

variable {annotations : Annotations} {remarks : List Remark} {key : String} {found : Option Json}

theorem nest_eq_insert (parent key : String) (value : Json) : annotations.nest parent key value =
    annotations.insert parent
      (.object (Dict.insert (fieldsOf (annotations.definition.get? parent)) key value)) := by
  rw [nest, fieldsOf]
  congr 3
  cases annotations.definition.get? parent with
  | none => rfl
  | some found => cases found <;> rfl

theorem definition_enterAll (remarks : List Remark) (annotations : Annotations) :
    (remarks.foldl enter annotations).definition =
      Dict.updateAll annotations.definition (remarks.filterMap Remark.update?) := by
  induction remarks generalizing annotations with
  | nil => rfl
  | cons remark remarks ih =>
    rw [List.foldl_cons, ih]
    cases remark with
    | plain key value => rfl
    | nested parent key value =>
      rw [enter, nest_eq_insert]
      rfl
    | named name => rfl

theorem others_enterAll (remarks : List Remark) (annotations : Annotations) :
    (remarks.foldl enter annotations).others =
      insertNames (remarks.filterMap Remark.name?) annotations.others := by
  induction remarks generalizing annotations with
  | nil => rfl
  | cons remark remarks ih =>
    rw [List.foldl_cons, ih]
    cases remark <;> rfl

/-- What remarks in an object make of what is there.  Without any it stays as it is. -/
def nestAll (fields : List (String × Json)) (found : Option Json) : Option Json :=
  if fields = [] then found else some (.object (Dict.extend (fieldsOf found) fields))

theorem nestAll_concat (fields : List (String × Json)) (field : String × Json) :
    nestAll (fields ++ [field]) found =
      some (.object (Dict.insert (fieldsOf (nestAll fields found)) field.1 field.2)) := by
  rw [nestAll, if_neg (by simp), nestAll, Dict.extend, List.foldl_concat]
  split
  · next hnil =>
    subst hnil
    rfl
  · rfl

theorem nestAll_nestAll (fields : List (String × Json)) :
    nestAll fields (nestAll fields found) = nestAll fields found := by
  by_cases hnil : fields = []
  · rw [nestAll, if_pos hnil]
  · rw [nestAll, nestAll, if_neg hnil, if_neg hnil]
    congr 2
    exact Dict.extend_extend_self _ fields

/-- What the last remark makes of what the others leave. -/
theorem slot_concat_remark (remarks : List Remark) (remark : Remark) :
    Dict.slot ((remarks ++ [remark]).filterMap Remark.update?) key found = match remark with
      | .plain written value =>
        if written = key then some value else Dict.slot (remarks.filterMap Remark.update?) key found
      | .nested parent sub value =>
        if parent = key then
          some (.object (Dict.insert (fieldsOf (Dict.slot (remarks.filterMap Remark.update?) key found)) sub
            value))
        else Dict.slot (remarks.filterMap Remark.update?) key found
      | .named _ => Dict.slot (remarks.filterMap Remark.update?) key found := by
  rw [List.filterMap_append]
  cases remark with
  | plain written value => exact Dict.slot_concat _ _
  | nested parent sub value => exact Dict.slot_concat _ _
  | named name => exact congrArg (fun updates => Dict.slot updates key found) (List.append_nil _)

/-- The remarks of a key end in a value of their own, or they are all in the object that is there. -/
theorem slot_remarks (remarks : List Remark) (key : String) :
    (∃ value, ∀ found, Dict.slot (remarks.filterMap Remark.update?) key found = some value) ∨
      ∃ fields, ∀ found,
        Dict.slot (remarks.filterMap Remark.update?) key found = nestAll fields found := by
  induction remarks using List.reverseRecOn with
  | nil => exact .inr ⟨[], fun _ => rfl⟩
  | append_singleton remarks remark ih =>
    simp only [slot_concat_remark]
    cases remark with
    | plain written value =>
      dsimp only
      split
      · exact .inl ⟨value, fun _ => rfl⟩
      · exact ih
    | nested parent sub value =>
      dsimp only
      split
      · rcases ih with ⟨before, hbefore⟩ | ⟨fields, hfields⟩
        · exact .inl ⟨_, fun found => by rw [hbefore]⟩
        · exact .inr ⟨fields ++ [(sub, value)], fun found => by rw [hfields, nestAll_concat]⟩
      · exact ih
    | named name => exact ih

theorem slot_slot (remarks : List Remark) (key : String) (found : Option Json) :
    Dict.slot (remarks.filterMap Remark.update?) key
        (Dict.slot (remarks.filterMap Remark.update?) key found) =
      Dict.slot (remarks.filterMap Remark.update?) key found := by
  rcases slot_remarks remarks key with ⟨value, hvalue⟩ | ⟨fields, hfields⟩
  · rw [hvalue, hvalue]
  · rw [hfields, hfields, nestAll_nestAll]

/-- **Entries that are entered again change nothing**, neither a value nor the order of keys. -/
theorem enterAll_enterAll (remarks : List Remark) (annotations : Annotations) :
    remarks.foldl enter (remarks.foldl enter annotations) = remarks.foldl enter annotations := by
  have hdefinition := definition_enterAll remarks (remarks.foldl enter annotations)
  have hothers := others_enterAll remarks (remarks.foldl enter annotations)
  rw [definition_enterAll remarks annotations, Dict.updateAll_updateAll (slot_slot remarks),
    ← definition_enterAll remarks annotations] at hdefinition
  rw [others_enterAll remarks annotations, insertNames_insertNames,
    ← others_enterAll remarks annotations] at hothers
  generalize remarks.foldl enter (remarks.foldl enter annotations) = again at *
  generalize remarks.foldl enter annotations = done at *
  cases again
  cases done
  simp_all

end Annotations

/-! ## Reading -/

/-- Answers the requests for values that are made from a file. -/
abbrev Resolver := Option String → Require → Except Error Json

namespace AnnotationReader

open Annotations

variable {reader : AnnotationReader} {resolve : Resolver} {symbol : Symbol}
  {annotations done : Annotations}

/-- The value of a tag, where required values are had from `resolve`. -/
def valueBy (resolve : Resolver) (symbol : Symbol) (key text : String) : Except Error Json :=
  if text = "" then return .bool true
  else match Require.ofText? text with
    | some require => do
      let value ← resolve (symbol.declaration.map Declaration.file) require
      if key = "examples" ∧ value.items?.isNone then throw (.require require.specifier .notArray)
      else return value
    | none => return (Json.parse? text).getD (.string text)

/-- What a tag enters, where required values are had from `resolve`. -/
def remarkBy (reader : AnnotationReader) (resolve : Resolver) (symbol : Symbol) (tag : DocTag) :
    Except Error Remark :=
  let text := tag.text.getD ""
  match reader.ledKeyword? text with
  | some (sub, emitted, valueText) =>
    (valueBy resolve symbol sub valueText).map (.nested tag.name emitted)
  | none =>
    match reader.dottedKeyword? tag.name with
    | some (parent, emitted) => (valueBy resolve symbol tag.name text).map (.nested parent emitted)
    | none =>
      match reader.keywords.emitted? tag.name with
      | some emitted => (valueBy resolve symbol tag.name text).map (.plain emitted)
      | none => .ok (.named tag.name)

/-- What tags enter, in order. -/
def remarksBy (reader : AnnotationReader) (resolve : Resolver) (symbol : Symbol) :
    List DocTag → Except Error (List Remark)
  | [] => .ok []
  | tag :: rest => do
    let remark ← reader.remarkBy resolve symbol tag
    let remarks ← remarksBy reader resolve symbol rest
    return remark :: remarks

/-- The description as a remark. -/
def described (symbol : Symbol) : List Remark :=
  (description? symbol).toList.map fun text => .plain "description" (.string text)

/-- The annotations of a symbol, entered after those that are there, where required values are had from
`resolve`. -/
def extendBy (reader : AnnotationReader) (resolve : Resolver) (annotations : Annotations)
    (symbol : Symbol) : Except Error Annotations :=
  (reader.remarksBy resolve symbol symbol.tags).map fun remarks =>
    (described symbol ++ remarks).foldl enter annotations

theorem tagValue_eq (symbol : Symbol) (key text : String) :
    reader.tagValue symbol key text = valueBy reader.modules.resolve symbol key text := by
  unfold tagValue valueBy textValue
  rfl

theorem addTag_eq (annotations : Annotations) (tag : DocTag) :
    reader.addTag symbol annotations tag =
      (reader.remarkBy reader.modules.resolve symbol tag).map annotations.enter := by
  have hmap : ∀ (value : Except Error Json) (remark : Json → Remark) (next : Json → Annotations),
      (∀ v, annotations.enter (remark v) = next v) →
        (do return next (← value)) = (value.map remark).map annotations.enter := by
    rintro (fault | value) remark next hnext
    · rfl
    · exact congrArg Except.ok (hnext value).symm
  simp only [addTag, remarkBy, tagValue_eq]
  cases reader.ledKeyword? (tag.text.getD "") with
  | some led => exact hmap _ _ _ fun _ => rfl
  | none =>
    cases reader.dottedKeyword? tag.name with
    | some dotted => exact hmap _ _ _ fun _ => rfl
    | none =>
      cases reader.keywords.emitted? tag.name with
      | some emitted => exact hmap _ _ _ fun _ => rfl
      | none => rfl

/-- Tags are all read, or one of them is at fault. -/
theorem addTags_eq (reader : AnnotationReader) (symbol : Symbol) (tags : List DocTag)
    (annotations : Annotations) :
    (match reader.addTags symbol annotations tags with
      | (done, none) => Except.ok done
      | (_, some error) => .error error) =
        (reader.remarksBy reader.modules.resolve symbol tags).map fun remarks =>
          remarks.foldl enter annotations := by
  induction tags generalizing annotations with
  | nil => rfl
  | cons tag tags ih =>
    rw [addTags, addTag_eq, remarksBy]
    cases reader.remarkBy reader.modules.resolve symbol tag with
    | error fault => rfl
    | ok remark =>
      refine (ih (annotations.enter remark)).trans ?_
      cases reader.remarksBy reader.modules.resolve symbol tags <;> rfl

/-- The reader has required values from its modules. -/
theorem extendBy_resolve (reader : AnnotationReader) :
    reader.extendBy reader.modules.resolve = reader.extend := by
  funext annotations symbol
  have hstart : reader.addSymbol annotations symbol =
      reader.addTags symbol ((described symbol).foldl enter annotations) symbol.tags := by
    rw [addSymbol, described]
    cases description? symbol <;> rfl
  have htags := addTags_eq reader symbol symbol.tags ((described symbol).foldl enter annotations)
  rw [extend, hstart, extendBy]
  simp only [List.foldl_append]
  exact htags.symm

/-- **A doc comment that is read again changes nothing**: it is read as it was the first time, and every
value, the order of keys, also in the objects under parents, and the names of the other tags stay.  This
holds wherever required values are had from, as long as the same request has the same answer. -/
theorem extend_idempotent (reader : AnnotationReader) (symbol : Symbol) (annotations done : Annotations) :
    (reader.extend annotations symbol = .ok done → reader.extend done symbol = .ok done) ∧
      ∀ resolve, reader.extendBy resolve annotations symbol = .ok done →
        reader.extendBy resolve done symbol = .ok done := by
  have hagain : ∀ resolve, reader.extendBy resolve annotations symbol = .ok done →
      reader.extendBy resolve done symbol = .ok done := by
    intro resolve h
    rw [extendBy] at h ⊢
    cases hremarks : reader.remarksBy resolve symbol symbol.tags with
    | error fault =>
      rw [hremarks] at h
      cases h
    | ok remarks =>
      rw [hremarks] at h
      obtain rfl := Except.ok.inj h
      exact congrArg Except.ok (enterAll_enterAll _ annotations)
  refine ⟨fun h => ?_, hagain⟩
  rw [← extendBy_resolve] at h ⊢
  exact hagain _ h

/-- A doc comment in which `default` has a value first and then an object, and `body` an object. -/
def rewritten : Symbol where
  name := "pages"
  documentation := [⟨.text, "The pages."⟩]
  tags := [⟨"body", some ".default"⟩, ⟨"default", some "7"⟩, ⟨"default.title", some "seven"⟩,
    ⟨"see", none⟩, ⟨"body.examples", some "require('./pages')"⟩, ⟨"ignore", none⟩]

/-- No custom keywords and no modules. -/
def plainReader : AnnotationReader :=
  ⟨⟨[], "x-"⟩, .none⟩

/-- Every request is answered by an empty array. -/
def noPages : Resolver := fun _ _ => .ok (.array [])

/-- What the doc comment says. -/
def pagesText : String :=
  "\x7b\"description\":\"The pages.\",\"body\":\x7b\"default\":true,\"examples\":[]\x7d," ++
    "\"default\":\x7b\"title\":\"seven\"\x7d\x7d"

theorem extend_idempotent_rewritten : ∃ done,
    plainReader.extendBy noPages {} rewritten = .ok done ∧
    plainReader.extendBy noPages done rewritten = .ok done ∧
    done.definition.toJson.compact = pagesText ∧ done.others = ["ignore", "see"] := by
  have hread : ((plainReader.extendBy noPages {} rewritten).toOption.any fun done =>
      decide (done.definition.toJson.compact = pagesText ∧ done.others = ["ignore", "see"])) = true := by
    decide +kernel
  cases hdone : plainReader.extendBy noPages {} rewritten with
  | error _ =>
    rw [hdone] at hread
    cases hread
  | ok done =>
    rw [hdone] at hread
    obtain ⟨-, hagain⟩ := extend_idempotent plainReader rewritten {} done
    exact ⟨done, rfl, hagain noPages hdone, of_decide_eq_true hread⟩

end AnnotationReader

end TypeSchema
