import Mathlib.Data.List.TakeWhile
import TypeSchema.Json.Printer
import TypeSchema.Proofs.Annotations

/-!
# Two spellings of a tag

A keyword under a parent is written as a tag `parent.sub`, or as a tag `parent` whose text begins with
`.sub`.  Both enter the value of the tag in the same place (`addTag_dottedTag`, `addTag_ledTag`), but the
value is had by the tag's name in the one case, and by the keyword in the other.  The name matters in one
place: a value that is required for `examples` has to be an array.  A dotted name is never `examples`, so
what is no array is refused in the one spelling and entered in the other
(**`addTag_spellings`**).
-/

set_option autoImplicit false

namespace TypeSchema

namespace Text

variable {sep : Char} {text : String} {before after : List Char}

theorem splitOnce?_of_toList (htext : text.toList = before ++ sep :: after) (h : sep ∉ before) :
    splitOnce? sep text = some (String.ofList before, String.ofList after) := by
  have hbefore : ∀ c ∈ before, decide (c ≠ sep) = true :=
    fun c hc => decide_eq_true (ne_of_mem_of_not_mem hc h)
  have hdrop : (before ++ sep :: after).dropWhile (· ≠ sep) = sep :: after := by
    rw [List.dropWhile_append_of_pos hbefore, List.dropWhile_cons_of_neg (by simp)]
  have htake : (before ++ sep :: after).takeWhile (· ≠ sep) = before := by
    rw [List.takeWhile_append_of_pos hbefore, List.takeWhile_cons_of_neg (by simp), List.append_nil]
  simp only [splitOnce?, htext, hdrop, htake]

theorem splitOnce?_eq_none (h : sep ∉ text.toList) : splitOnce? sep text = none := by
  have hdrop : text.toList.dropWhile (· ≠ sep) = [] := by
    rw [List.dropWhile_eq_nil_iff]
    exact fun c hc => decide_eq_true (ne_of_mem_of_not_mem hc h)
  simp only [splitOnce?, hdrop]

end Text

/-- The keyword in the name of the tag. -/
def dottedTag (parent sub : String) (text : Option String) : DocTag :=
  ⟨parent ++ "." ++ sub, text⟩

/-- The keyword at the beginning of the tag's text. -/
def ledTag (parent sub : String) (text : Option String) : DocTag :=
  ⟨parent, some ("." ++ sub ++ if text.getD "" = "" then "" else " " ++ text.getD "")⟩

namespace AnnotationReader

open Text

variable {reader : AnnotationReader} {symbol : Symbol} {annotations : Annotations}
  {parent sub emitted key other : String} {text : Option String}

/-- The keyword may be written in both ways, as no part of the tag is taken for another one. -/
structure Spelled (reader : AnnotationReader) (parent sub emitted : String) (text : Option String) :
    Prop where
  keyword : reader.keywords.emitted? sub = some emitted
  parent : '.' ∉ parent.toList
  sub : '.' ∉ sub.toList ∧ ' ' ∉ sub.toList
  text : (text.getD "").toList.head? ≠ some '.'

/-! ## The two ways to a keyword -/

theorem ledKeyword?_eq_none {value : String} (h : value.toList.head? ≠ some '.') :
    reader.ledKeyword? value = none := by
  rw [ledKeyword?]
  split
  · next rest heq => exact absurd (by rw [heq]; rfl) h
  · rfl

theorem Spelled.dottedKeyword? (h : reader.Spelled parent sub emitted text) :
    reader.dottedKeyword? (dottedTag parent sub text).name = some (parent, emitted) := by
  have hname : (dottedTag parent sub text).name.toList = parent.toList ++ '.' :: sub.toList := by
    simp [dottedTag]
  rw [AnnotationReader.dottedKeyword?, splitOnce?_of_toList hname h.parent]
  simp only [String.ofList_toList, h.keyword, Option.map_some]
  rw [if_neg (by simpa using h.sub.1)]

theorem Spelled.ledKeyword? (h : reader.Spelled parent sub emitted text) :
    reader.ledKeyword? ((ledTag parent sub text).text.getD "") =
      some (sub, emitted, text.getD "") := by
  by_cases hempty : text.getD "" = ""
  · have htext : ((ledTag parent sub text).text.getD "").toList = '.' :: sub.toList := by
      simp [ledTag, hempty]
    rw [AnnotationReader.ledKeyword?, htext]
    simp only [String.ofList_toList, splitOnce?_eq_none h.sub.2, Option.getD_none, h.keyword,
      Option.map_some, hempty]
  · have htext : ((ledTag parent sub text).text.getD "").toList =
        '.' :: (sub.toList ++ ' ' :: (text.getD "").toList) := by
      simp [ledTag, hempty]
    have hrest : (String.ofList (sub.toList ++ ' ' :: (text.getD "").toList)).toList =
        sub.toList ++ ' ' :: (text.getD "").toList := String.toList_ofList
    have hsplit := splitOnce?_of_toList hrest h.sub.2
    rw [AnnotationReader.ledKeyword?, htext]
    simp only [hsplit, String.ofList_toList, Option.getD_some, h.keyword, Option.map_some]

/-- The keyword is entered under the parent, and its value is had by the tag's whole name. -/
theorem addTag_dottedTag (h : reader.Spelled parent sub emitted text) :
    reader.addTag symbol annotations (dottedTag parent sub text) =
      (reader.tagValue symbol (parent ++ "." ++ sub) (text.getD "")).map
        (annotations.nest parent emitted) := by
  rw [addTag]
  have hled : reader.ledKeyword? ((dottedTag parent sub text).text.getD "") = none :=
    ledKeyword?_eq_none h.text
  simp only [hled, h.dottedKeyword?]
  rfl

/-- The keyword is entered under the parent, and its value is had by the keyword. -/
theorem addTag_ledTag (h : reader.Spelled parent sub emitted text) :
    reader.addTag symbol annotations (ledTag parent sub text) =
      (reader.tagValue symbol sub (text.getD "")).map (annotations.nest parent emitted) := by
  rw [addTag]
  simp only [h.ledKeyword?]
  rfl

/-! ## The two values -/

/-- The text asks for a module and has from it what is no array. -/
def RequiresNoArray (reader : AnnotationReader) (symbol : Symbol) (text : String)
    (require : Require) (value : Json) : Prop :=
  Require.ofText? text = some require ∧
    reader.modules.resolve (symbol.declaration.map Declaration.file) require = .ok value ∧
    value.items? = none

/-- By another name than `examples`, a value is had unchecked. -/
theorem tagValue_congr (hkey : key ≠ "examples") (hother : other ≠ "examples") (text : String) :
    reader.tagValue symbol key text = reader.tagValue symbol other text := by
  simp [tagValue, textValue, hkey, hother]

/-- What is required for `examples` is checked, and nothing else. -/
theorem textValue_eq_bind (symbol : Symbol) (key text : String) :
    reader.textValue symbol key text = match Require.ofText? text with
      | some require => reader.modules.resolve (symbol.declaration.map Declaration.file) require >>=
          fun value => if key = "examples" ∧ value.items?.isNone then
            .error (.require require.specifier .notArray) else .ok value
      | none => .ok ((Json.parse? text).getD (.string text)) := by
  rw [textValue]
  cases Require.ofText? text <;> rfl

/-- Under the name `examples` too, unless that is found which is no array. -/
theorem tagValue_examples (hkey : key ≠ "examples") {text : String}
    (h : ∀ require value, ¬reader.RequiresNoArray symbol text require value) :
    reader.tagValue symbol "examples" text = reader.tagValue symbol key text := by
  rw [tagValue, tagValue]
  split
  · rfl
  rw [textValue_eq_bind, textValue_eq_bind]
  split
  · next require hrequire =>
    cases hvalue : reader.modules.resolve (symbol.declaration.map Declaration.file) require with
    | error error => rfl
    | ok value =>
      have harray : ¬(value.items?.isNone = true) := fun hnone =>
        h require value ⟨hrequire, hvalue, Option.isNone_iff_eq_none.1 hnone⟩
      show (if _ then _ else _) = if _ then _ else _
      rw [if_neg fun hnone => harray hnone.2, if_neg fun hname => hkey hname.1]
  · rfl

theorem tagValue_of_requiresNoArray {text : String} {require : Require} {value : Json}
    (h : reader.RequiresNoArray symbol text require value) (key : String) :
    reader.tagValue symbol key text = if key = "examples" then
      .error (.require require.specifier .notArray) else .ok value := by
  obtain ⟨hrequire, hvalue, hnone⟩ := h
  have hne : text ≠ "" := by
    rintro rfl
    cases hrequire
  rw [tagValue, if_neg hne, textValue_eq_bind, hrequire]
  show (reader.modules.resolve _ require >>= _) = _
  rw [hvalue]
  simp [hnone, bind, Except.bind]

/-! ## The two spellings -/

theorem dotted_ne_examples (parent sub : String) : parent ++ "." ++ sub ≠ "examples" := by
  intro heq
  have hpoint : '.' ∈ (parent ++ "." ++ sub).toList := by simp
  rw [heq] at hpoint
  revert hpoint
  decide

/-- Tags that say the same may stand for one another in a doc comment. -/
theorem addTags_congr {tag respelled : DocTag}
    (h : ∀ annotations, reader.addTag symbol annotations tag =
      reader.addTag symbol annotations respelled) (before after : List DocTag) :
    reader.addTags symbol annotations (before ++ tag :: after) =
      reader.addTags symbol annotations (before ++ respelled :: after) := by
  induction before generalizing annotations with
  | nil => simp only [List.nil_append, addTags, h]
  | cons first before ih =>
    rw [List.cons_append, List.cons_append, addTags, addTags]
    cases reader.addTag symbol annotations first with
    | error error => rfl
    | ok next => exact ih

theorem addTag_dottedTag_eq (h : reader.Spelled parent sub emitted text)
    (harray : ∀ require value,
      ¬(sub = "examples" ∧ reader.RequiresNoArray symbol (text.getD "") require value)) :
    reader.addTag symbol annotations (dottedTag parent sub text) =
      reader.addTag symbol annotations (ledTag parent sub text) := by
  have hname := dotted_ne_examples parent sub
  rw [addTag_dottedTag h, addTag_ledTag h]
  by_cases hsub : sub = "examples"
  · have hnone : ∀ require value, ¬reader.RequiresNoArray symbol (text.getD "") require value :=
      fun require value hvalue => harray require value ⟨hsub, hvalue⟩
    rw [← tagValue_examples hname hnone, ← hsub]
  · rw [tagValue_congr hname hsub]

/-- **Both spellings of a tag say the same**, but for `examples` that are no array: the keyword is entered
under the parent with the value of the tag, or the fault of that value is the tag's, and doc comments
with the one spelling in them are read like those with the other.  Where a module is required for
`examples` and what it has is no array, a dotted tag enters it all the same, and the other spelling is
refused. -/
theorem addTag_spellings (h : reader.Spelled parent sub emitted text) (symbol : Symbol)
    (annotations : Annotations) :
    reader.addTag symbol annotations (ledTag parent sub text) =
        (reader.tagValue symbol sub (text.getD "")).map (annotations.nest parent emitted) ∧
      ((∀ require value,
          ¬(sub = "examples" ∧ reader.RequiresNoArray symbol (text.getD "") require value)) →
        reader.addTag symbol annotations (dottedTag parent sub text) =
            reader.addTag symbol annotations (ledTag parent sub text) ∧
          ∀ before after,
            reader.addTags symbol annotations (before ++ dottedTag parent sub text :: after) =
              reader.addTags symbol annotations (before ++ ledTag parent sub text :: after)) ∧
      ∀ require value, sub = "examples" →
        reader.RequiresNoArray symbol (text.getD "") require value →
          reader.addTag symbol annotations (dottedTag parent sub text) =
              .ok (annotations.nest parent emitted value) ∧
            reader.addTag symbol annotations (ledTag parent sub text) =
              .error (.require require.specifier .notArray) := by
  refine ⟨addTag_ledTag h, fun harray => ⟨addTag_dottedTag_eq h harray, fun before after => ?_⟩,
    fun require value hsub hvalue => ⟨?_, ?_⟩⟩
  · exact addTags_congr (fun annotations => addTag_dottedTag_eq h harray) before after
  · rw [addTag_dottedTag h, tagValue_of_requiresNoArray hvalue,
      if_neg (dotted_ne_examples parent sub)]
    rfl
  · rw [addTag_ledTag h, tagValue_of_requiresNoArray hvalue, if_pos hsub]
    rfl

/-- The only file is `fixtures.json`, and the number in it is its default export. -/
def fixtureReader : AnnotationReader where
  keywords := ⟨[], "x-"⟩
  modules := {
    base := "."
    isFile _ := false
    read path := if path = "././fixtures.json" then .ok "1" else .error .notFound }

/-- A symbol declared nowhere. -/
def operationSymbol : Symbol :=
  { name := "Op" }

theorem exists_requiresNoArray : ∃ value, value.compact = "1" ∧
    fixtureReader.RequiresNoArray operationSymbol "require('./fixtures')" ⟨"./fixtures", none⟩ value := by
  have hfound : (match fixtureReader.modules.resolve none ⟨"./fixtures", none⟩ with
      | .ok value => decide (value.compact = "1") && value.items?.isNone
      | .error _ => false) = true := by decide +kernel
  split at hfound
  · next value hvalue =>
    rw [Bool.and_eq_true, decide_eq_true_eq, Option.isNone_iff_eq_none] at hfound
    exact ⟨value, hfound.1, by decide +kernel, hvalue, hfound.2⟩
  · cases hfound

theorem addTag_spellings_contentType :
    fixtureReader.addTag operationSymbol {} (dottedTag "body" "contentType" (some "text/plain")) =
        fixtureReader.addTag operationSymbol {} (ledTag "body" "contentType" (some "text/plain")) ∧
      dottedTag "body" "contentType" (some "text/plain") = ⟨"body.contentType", some "text/plain"⟩ ∧
      ledTag "body" "contentType" (some "text/plain") = ⟨"body", some ".contentType text/plain"⟩ := by
  have hspelled : fixtureReader.Spelled "body" "contentType" "contentType" (some "text/plain") :=
    ⟨by decide, by decide, by decide, by decide⟩
  obtain ⟨-, hsame, -⟩ := addTag_spellings hspelled operationSymbol {}
  exact ⟨(hsame fun _ _ h => absurd h.1 (by decide)).1, by decide, by decide⟩

theorem spelled_examples :
    fixtureReader.Spelled "body" "examples" "examples" (some "require('./fixtures')") :=
  ⟨by decide, by decide, by decide, by decide⟩

/-- A number for `examples` is entered by a dotted tag, and refused by the other spelling. -/
theorem exists_examples_unchecked : ∃ value, value.compact = "1" ∧
    fixtureReader.Spelled "body" "examples" "examples" (some "require('./fixtures')") ∧
    fixtureReader.addTag operationSymbol {} ⟨"body.examples", some "require('./fixtures')"⟩ =
      .ok (Annotations.nest {} "body" "examples" value) ∧
    fixtureReader.addTag operationSymbol {} ⟨"body", some ".examples require('./fixtures')"⟩ =
      .error (.require "./fixtures" .notArray) := by
  obtain ⟨value, hcompact, hvalue⟩ := exists_requiresNoArray
  have hdotted : dottedTag "body" "examples" (some "require('./fixtures')") =
      ⟨"body.examples", some "require('./fixtures')"⟩ := by decide
  have hled : ledTag "body" "examples" (some "require('./fixtures')") =
      ⟨"body", some ".examples require('./fixtures')"⟩ := by decide
  refine ⟨value, hcompact, spelled_examples, ?_, ?_⟩
  · rw [← hdotted, addTag_dottedTag spelled_examples]
    exact congrArg (Except.map _) (tagValue_of_requiresNoArray hvalue _)
  · rw [← hled, addTag_ledTag spelled_examples]
    exact congrArg (Except.map _) (tagValue_of_requiresNoArray hvalue _)

end AnnotationReader

end TypeSchema
