import TypeSchema.Proofs.References.Occurrence
import TypeSchema.Proofs.Results
import TypeSchema.Schema.Annotations

/-!
# Reading doc comments

The tags of a doc comment are entered one after the other, and what one of them enters does not depend
on what is there.  So a doc comment refers to nothing that none of its tags refers to when read by
itself (`refersOnly_extend`).  The only way to fail is a tag that asks for a module which cannot be
had (`extend_error`).  And which keyword a tag enters, if it enters one, is a function of the tag
(`AnnotationReader.entered?`).
-/

set_option autoImplicit false

namespace TypeSchema

theorem mem_insertName {name other : String} {names : List String} :
    other ∈ insertName name names ↔ other = name ∨ other ∈ names := by
  induction names with
  | nil => rw [insertName, List.mem_singleton, or_iff_left (List.not_mem_nil)]
  | cons first rest ih =>
    rw [insertName]
    split
    · exact List.mem_cons
    · split
      · rename_i heq
        subst heq
        simp
      · rw [List.mem_cons, ih, List.mem_cons, or_left_comm]

namespace AnnotationReader

variable {reader : AnnotationReader} {symbol : Symbol} {annotations done : Annotations}

/-! ## Faults -/

/-- The tag asks for a module: by its text, or by what a keyword that the text begins with leaves of
it. -/
inductive Requires (reader : AnnotationReader) (tag : DocTag) (require : Require) : Prop
  | whole (h : Require.ofText? (tag.text.getD "") = some require) : Requires reader tag require
  | led {sub emitted value : String}
      (hled : reader.ledKeyword? (tag.text.getD "") = some (sub, emitted, value))
      (h : Require.ofText? value = some require) : Requires reader tag require

theorem tagValue_error {key text : String} {error : Error}
    (h : reader.tagValue symbol key text = .error error) :
    ∃ require fault, Require.ofText? text = some require ∧
      error = .require require.specifier fault := by
  rw [tagValue] at h
  split at h
  · cases h
  · rw [textValue] at h
    split at h
    · rename_i require hrequire
      refine ⟨require, ?_⟩
      cases hload : reader.modules.resolve (symbol.declaration.map Declaration.file) require with
      | error fault =>
        have hfault : fault = error := by simpa [hload, bind, Except.bind] using h
        unfold Modules.resolve at hload
        dsimp only at hload
        cases hselect : (reader.modules.load (reader.modules.locate
            (symbol.declaration.map Declaration.file) require.specifier)).bind
            (Modules.select require.exported) with
        | error cause =>
          rw [hselect] at hload
          exact ⟨_, hrequire, hfault ▸ (Except.error.inj hload).symm⟩
        | ok value =>
          rw [hselect] at hload
          cases hload
      | ok value =>
        simp only [hload, bind, Except.bind] at h
        split at h
        · exact ⟨_, hrequire, (Except.error.inj h).symm⟩
        · cases h
    · cases h

theorem addTag_error {tag : DocTag} {error : Error}
    (h : reader.addTag symbol annotations tag = .error error) :
    ∃ require fault, reader.Requires tag require ∧ error = .require require.specifier fault := by
  have value_error : ∀ {key text : String} {next : Json → Annotations},
      (do return next (← reader.tagValue symbol key text)) = Except.error error →
        ∃ require fault, Require.ofText? text = some require ∧
          error = .require require.specifier fault := by
    intro key text next hnext
    cases hvalue : reader.tagValue symbol key text with
    | ok value => simp [hvalue, bind, Except.bind, pure, Except.pure] at hnext
    | error fault =>
      obtain rfl : fault = error := by simpa [hvalue, bind, Except.bind] using hnext
      exact tagValue_error hvalue
  unfold addTag at h
  dsimp only at h
  split at h
  · rename_i hled
    obtain ⟨require, fault, hrequire, heq⟩ := value_error h
    exact ⟨require, fault, .led hled hrequire, heq⟩
  · split at h
    · obtain ⟨require, fault, hrequire, heq⟩ := value_error h
      exact ⟨require, fault, .whole hrequire, heq⟩
    · split at h
      · obtain ⟨require, fault, hrequire, heq⟩ := value_error h
        exact ⟨require, fault, .whole hrequire, heq⟩
      · cases h

theorem addTags_error {tags : List DocTag} {error : Error}
    (h : reader.addTags symbol annotations tags = (done, some error)) :
    ∃ tag ∈ tags, ∃ require fault, reader.Requires tag require ∧
      error = .require require.specifier fault := by
  induction tags generalizing annotations with
  | nil => cases h
  | cons tag rest ih =>
    rw [addTags] at h
    split at h
    · obtain ⟨later, hmem, hlater⟩ := ih h
      exact ⟨later, List.mem_cons_of_mem _ hmem, hlater⟩
    · rename_i fault hfault
      cases h
      exact ⟨tag, List.mem_cons_self, addTag_error hfault⟩

/-- A doc comment that cannot be read asks for a module that cannot be had. -/
theorem extend_error {error : Error} (h : reader.extend annotations symbol = .error error) :
    ∃ tag ∈ symbol.tags, ∃ require fault, reader.Requires tag require ∧
      error = .require require.specifier fault := by
  rw [extend] at h
  split at h
  · cases h
  · rename_i fault hfault
    cases h
    exact addTags_error hfault

/-! ## References -/

variable {P : String → Prop}

theorem refersOnly_insert {key : String} {value : Json}
    (h : annotations.definition.RefersOnly P)
    (halone : (({} : Annotations).insert key value).definition.RefersOnly P) :
    (annotations.insert key value).definition.RefersOnly P :=
  h.insert (Definition.refersOnly_iff.1 halone (key, value) (List.mem_singleton.2 rfl))

theorem refersOnly_nest {parent key : String} {value : Json}
    (h : annotations.definition.RefersOnly P)
    (halone : (({} : Annotations).nest parent key value).definition.RefersOnly P) :
    (annotations.nest parent key value).definition.RefersOnly P := by
  have hentry : Json.EntryOnly P (key, value) := by
    have hparent := Definition.refersOnly_iff.1 halone (parent, .object [(key, value)])
      (List.mem_singleton.2 rfl)
    exact Json.refersOnly_object.1 hparent.2 (key, value) (List.mem_singleton.2 rfl)
  refine h.insert ⟨fun target heq => ?_, Json.refersOnly_object.2 fun entry hmem => ?_⟩
  · cases congrArg Prod.snd heq
  · rcases Dict.mem_of_mem_insert hmem with rfl | hinner
    · exact hentry
    · -- What was under the parent before is an object that stood there.
      split at hinner
      · rename_i fields hget
        exact Json.refersOnly_object.1 (h.get? hget) entry hinner
      · cases hinner

/-- A tag adds to what is there what it enters alone. -/
theorem refersOnly_addTag {tag : DocTag} (h : annotations.definition.RefersOnly P)
    (halone : ∀ alone, reader.addTag symbol {} tag = .ok alone → alone.definition.RefersOnly P)
    (hadd : reader.addTag symbol annotations tag = .ok done) : done.definition.RefersOnly P := by
  unfold addTag at hadd halone
  dsimp only at hadd halone
  split at hadd
  · rename_i sub emitted text hled
    obtain ⟨value, hvalue, hadd⟩ := bind_eq_ok_iff.1 hadd
    cases hadd
    exact refersOnly_nest h (halone _ (by rw [hled]; exact bind_eq_ok_iff.2 ⟨value, hvalue, rfl⟩))
  · rename_i hled
    split at hadd
    · rename_i parent emitted hdotted
      obtain ⟨value, hvalue, hadd⟩ := bind_eq_ok_iff.1 hadd
      cases hadd
      exact refersOnly_nest h
        (halone _ (by rw [hled, hdotted]; exact bind_eq_ok_iff.2 ⟨value, hvalue, rfl⟩))
    · rename_i hdotted
      split at hadd
      · rename_i emitted hplain
        obtain ⟨value, hvalue, hadd⟩ := bind_eq_ok_iff.1 hadd
        cases hadd
        exact refersOnly_insert h
          (halone _ (by rw [hled, hdotted, hplain]; exact bind_eq_ok_iff.2 ⟨value, hvalue, rfl⟩))
      · cases hadd
        exact h

theorem refersOnly_addTags {tags : List DocTag} (h : annotations.definition.RefersOnly P)
    (halone : ∀ tag ∈ tags, ∀ alone, reader.addTag symbol {} tag = .ok alone →
      alone.definition.RefersOnly P) :
    (reader.addTags symbol annotations tags).1.definition.RefersOnly P := by
  induction tags generalizing annotations with
  | nil => exact h
  | cons tag rest ih =>
    rw [addTags]
    split
    · rename_i next hnext
      have hnext' := refersOnly_addTag h (halone tag List.mem_cons_self) hnext
      exact ih hnext' fun other hother => halone other (List.mem_cons_of_mem _ hother)
    · exact h

theorem refersOnly_addSymbol (h : annotations.definition.RefersOnly P)
    (halone : ∀ tag ∈ symbol.tags, ∀ alone, reader.addTag symbol {} tag = .ok alone →
      alone.definition.RefersOnly P) :
    (reader.addSymbol annotations symbol).1.definition.RefersOnly P := by
  rw [addSymbol]
  refine refersOnly_addTags ?_ halone
  split
  · exact h.insert (.of_ne (by decide) (Json.refersOnly_string _))
  · exact h

/-- A doc comment refers to what was referred to before and to what its tags refer to. -/
theorem refersOnly_extend (h : annotations.definition.RefersOnly P)
    (halone : ∀ tag ∈ symbol.tags, ∀ alone, reader.addTag symbol {} tag = .ok alone →
      alone.definition.RefersOnly P)
    (hextend : reader.extend annotations symbol = .ok done) : done.definition.RefersOnly P := by
  have hdone := refersOnly_addSymbol h halone
  rw [extend] at hextend
  split at hextend
  · rename_i result heq
    cases hextend
    rw [heq] at hdone
    exact hdone
  · cases hextend

/-! ## Keywords -/

/-- The keyword that a tag enters, if it enters one. -/
def entered? (reader : AnnotationReader) (tag : DocTag) : Option String :=
  match reader.ledKeyword? (tag.text.getD "") with
  | some _ => some tag.name
  | none => match reader.dottedKeyword? tag.name with
    | some (parent, _) => some parent
    | none => reader.keywords.emitted? tag.name

/-- What a tag enters under a keyword, where the annotations are there already: the value of the tag, or
the object that is there with the value in it.  A value alone is entered under a keyword that is
recognized, and so is a value in an object. -/
inductive Says (reader : AnnotationReader) (symbol : Symbol) (annotations : Annotations)
    (key : String) : Json → Prop
  | value {name text keyword : String} {value : Json}
      (h : reader.tagValue symbol name text = .ok value)
      (hkey : reader.keywords.emitted? keyword = some key) :
      Says reader symbol annotations key value
  | nested {name text keyword sub : String} {value : Json} {inner : Dict Json}
      (h : reader.tagValue symbol name text = .ok value)
      (hsub : reader.keywords.emitted? keyword = some sub)
      (hinner : annotations.definition.get? key = some (.object inner) ∨ inner = []) :
      Says reader symbol annotations key (.object (Dict.insert inner sub value))

theorem emitted?_of_ledKeyword? {text sub emitted value : String}
    (h : reader.ledKeyword? text = some (sub, emitted, value)) :
    reader.keywords.emitted? sub = some emitted := by
  rw [ledKeyword?] at h
  split at h
  · obtain ⟨found, hfound, heq⟩ := Option.map_eq_some_iff.1 h
    cases heq
    exact hfound
  · cases h

theorem emitted?_of_dottedKeyword? {name parent emitted : String}
    (h : reader.dottedKeyword? name = some (parent, emitted)) :
    ∃ sub, reader.keywords.emitted? sub = some emitted := by
  rw [dottedKeyword?] at h
  split at h
  · split at h
    · cases h
    · obtain ⟨found, hfound, heq⟩ := Option.map_eq_some_iff.1 h
      cases heq
      exact ⟨_, hfound⟩
  · cases h

theorem exists_nest {name text keyword parent sub : String} {value : Json}
    (h : reader.tagValue symbol name text = .ok value)
    (hsub : reader.keywords.emitted? keyword = some sub) :
    ∃ entered, reader.Says symbol annotations parent entered ∧
      annotations.nest parent sub value = annotations.insert parent entered := by
  refine ⟨_, .nested h hsub ?_, rfl⟩
  split
  · exact .inl ‹_›
  · exact .inr rfl

/-- A tag enters a keyword, or its name is remembered. -/
theorem addTag_eq_ok {tag : DocTag} (h : reader.addTag symbol annotations tag = .ok done) :
    (∃ key value, reader.entered? tag = some key ∧ reader.Says symbol annotations key value ∧
      done = annotations.insert key value) ∨
      reader.entered? tag = none ∧ done = annotations.remember tag.name := by
  unfold addTag at h
  dsimp only at h
  split at h
  · rename_i hled
    obtain ⟨value, hvalue, h⟩ := bind_eq_ok_iff.1 h
    cases h
    obtain ⟨entered, hsaid, heq⟩ := exists_nest hvalue (emitted?_of_ledKeyword? hled)
    exact .inl ⟨tag.name, entered, by simp [entered?, hled], hsaid, heq⟩
  · rename_i hled
    split at h
    · rename_i parent emitted hdotted
      obtain ⟨value, hvalue, h⟩ := bind_eq_ok_iff.1 h
      cases h
      obtain ⟨sub, hsub⟩ := emitted?_of_dottedKeyword? hdotted
      obtain ⟨entered, hsaid, heq⟩ := exists_nest hvalue hsub
      exact .inl ⟨parent, entered, by simp [entered?, hled, hdotted], hsaid, heq⟩
    · rename_i hdotted
      split at h
      · rename_i emitted hplain
        obtain ⟨value, hvalue, h⟩ := bind_eq_ok_iff.1 h
        cases h
        exact .inl ⟨emitted, value, by simp [entered?, hled, hdotted, hplain],
          .value hvalue hplain, rfl⟩
      · rename_i hplain
        exact .inr ⟨by simp [entered?, hled, hdotted, hplain], (Except.ok.inj h).symm⟩

section Induction

variable {P : Annotations → Prop}

theorem addTags_induction {tags : List DocTag} (start : P annotations)
    (entered : ∀ annotations, ∀ tag ∈ tags, ∀ key value, P annotations →
      reader.entered? tag = some key → reader.Says symbol annotations key value →
        P (annotations.insert key value))
    (remembered : ∀ annotations, ∀ tag ∈ tags, P annotations →
      reader.entered? tag = none → P (annotations.remember tag.name))
    (h : reader.addTags symbol annotations tags = (done, none)) : P done := by
  induction tags generalizing annotations with
  | nil =>
    cases h
    exact start
  | cons tag rest ih =>
    rw [addTags] at h
    split at h
    · rename_i next hnext
      refine ih ?_ (fun a other hother => entered a other (List.mem_cons_of_mem _ hother))
        (fun a other hother => remembered a other (List.mem_cons_of_mem _ hother)) h
      rcases addTag_eq_ok hnext with ⟨key, value, hkey, hsaid, rfl⟩ | ⟨hnone, rfl⟩
      · exact entered _ tag List.mem_cons_self key value start hkey hsaid
      · exact remembered _ tag List.mem_cons_self start hnone
    · cases h

/-- What is kept by a description, and by each tag, is kept by the doc comment. -/
theorem extend_induction (start : P annotations)
    (described : ∀ annotations text, P annotations →
      P (annotations.insert "description" (.string text)))
    (entered : ∀ annotations, ∀ tag ∈ symbol.tags, ∀ key value, P annotations →
      reader.entered? tag = some key → reader.Says symbol annotations key value →
        P (annotations.insert key value))
    (remembered : ∀ annotations, ∀ tag ∈ symbol.tags, P annotations →
      reader.entered? tag = none → P (annotations.remember tag.name))
    (h : reader.extend annotations symbol = .ok done) : P done := by
  rw [extend] at h
  split at h
  · rename_i result hadd
    cases h
    rw [addSymbol] at hadd
    refine addTags_induction ?_ entered remembered hadd
    split
    · exact described _ _ start
    · exact start
  · cases h

end Induction

end AnnotationReader

end TypeSchema
