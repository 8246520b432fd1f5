import TypeSchema.Proofs.Objects.Listings

/-!
# Definitions that are given

A definition that is given stands in the table of every call, under its name, and takes the place of
what would be built for that name.  It does so where a type goes by the name, and it is the symbol
the type is referred to by that brings it along.  A type that never becomes a reference by itself
goes by no name: if it is a number that has no alias, it is described in place
(`Catalog.exists_number_in_place`).  Under unique names a declaration names the type before the
symbol is asked for, and in ref mode so does the alias of a union of string literals.

**`Catalog.given_replaces`** says that the property refers to the given definition everywhere else,
and what stands beside the reference: what the property says of itself.  Only where the definition
would have been described in place do keywords of the type stand there too.
-/

set_option autoImplicit false

namespace TypeSchema

namespace Catalog

open BuildM

variable {catalog : Catalog} {request : Request} {subject : Subject} {symbol : Symbol}
  {p q : Progress} {journal : List Event} {listing : Listing} {kept : KeptProperty}
  {annotations : Annotations} {answer : Definition}

/-! ## Names that are given -/

/-- The subject of the request goes by the name of a given definition, which is that of the symbol
it is referred to by: its construction is guarded, and neither a declaration nor an alias of a union
of string literals gives it another name. -/
structure Overridden (catalog : Catalog) (request : Request) (subject : Subject) (symbol : Symbol) :
    Prop where
  named : ∃ id, subject.named = some id ∧ catalog.graph.lookupSymbol id = .ok symbol
  given : Dict.contains catalog.overrides symbol.name = true
  guarded : ∀ isRaw, catalog.graph.isRaw subject.node = .ok isRaw → subject.isGuarded isRaw = true
  undeclared : catalog.options.uniqueNames = true → ∀ declaring,
    catalog.graph.declaringSymbol subject.node = .ok (some declaring) → declaring.declaration = none
  unaliased : request.asReference = true → catalog.graph.isStringUnion subject.node ≠ .ok true

/-- Whether ref mode makes the subject a reference wherever it goes by the name of the symbol. -/
def refersByName (catalog : Catalog) (subject : Subject) (symbol : Symbol) : Bool :=
  catalog.options.reference && !(symbol.name == typeLiteralName) &&
    subject.node.aliasArguments.isEmpty && !subject.isEnumReference && isReferenceName symbol.name

/-- How the construction is taken up: it is referred to where it is under way, and else it begins. -/
def TakenUp (catalog : Catalog) (subject : Subject) (symbol : Symbol) (p : Progress) (plan : Plan) :
    Prop :=
  plan.name = symbol.name ∧
    (p.context.isBuilding symbol.name = true ∧ plan.isReference = true ∧ plan.token = none ∨
      p.context.isBuilding symbol.name = false ∧ plan.token.isSome = true ∧
        (plan.isReference = false → catalog.refersByName subject symbol = false))

namespace Overridden

theorem post_overrideName? (h : catalog.Overridden request subject symbol) :
    (catalog.overrideName? subject.named).Post p (fun name q => name = some symbol.name ∧ q = p)
      fun _ _ => True := by
  obtain ⟨id, hnamed, hsymbol⟩ := h.named
  simp only [overrideName?, hnamed, Catalog.symbol, hsymbol]
  exact ⟨if_pos h.given, rfl⟩

theorem post_subjectName (h : catalog.Overridden request subject symbol) :
    (catalog.subjectName subject false).Post p
      (fun name q => name = ⟨symbol.name, .override⟩ ∧ q = p) fun _ _ => True := by
  rw [subjectName]
  simp only [Bool.false_eq_true, if_false]
  refine post_bind.2 (.find (fun declaring hdeclaring => ?_) fun _ => trivial)
  have hundeclared : (if catalog.options.uniqueNames then declaring.bind Symbol.declaration
      else none) = none := by
    split
    · rename_i hunique
      cases declaring with
      | none => rfl
      | some declaring => exact h.undeclared hunique declaring hdeclaring
    · rfl
  rw [hundeclared]
  refine h.post_overrideName?.bind ?_
  rintro _ _ ⟨rfl, rfl⟩
  exact ⟨rfl, rfl⟩

theorem post_isPromoted (h : catalog.Overridden request subject symbol) :
    (catalog.isPromoted subject symbol.name).Post p
      (fun promoted q => promoted = catalog.refersByName subject symbol ∧ q = p)
      fun _ _ => True := by
  obtain ⟨id, hnamed, hsymbol⟩ := h.named
  rw [isPromoted, hnamed]
  simp only [Catalog.symbol, hsymbol]
  exact ⟨rfl, rfl⟩

theorem post_takeUp (h : catalog.Overridden request subject symbol) {isRaw asReference : Bool}
    (hguarded : subject.isGuarded isRaw = true) :
    (catalog.takeUp subject ⟨symbol.name, .override⟩ isRaw asReference).Post p
      (fun plan _ => catalog.TakenUp subject symbol p plan) fun _ _ => True := by
  rw [takeUp, hguarded]
  refine post_bind.2 (post_context.2 ?_)
  split
  · rename_i hbuilding
    exact ⟨rfl, .inl ⟨hbuilding, rfl, rfl⟩⟩
  · rename_i hbuilding
    refine post_bind.2 (post_answer.2 (h.post_isPromoted.bind ?_))
    rintro promoted q ⟨rfl, _⟩
    refine ⟨rfl, .inr ⟨by simpa using hbuilding, rfl, fun hreference => ?_⟩⟩
    exact (Bool.or_eq_false_iff.1 hreference).2

theorem post_plan (h : catalog.Overridden request subject symbol) :
    (catalog.plan subject request.asReference).Post p
      (fun plan _ => catalog.TakenUp subject symbol p plan) fun _ _ => True := by
  rw [plan]
  refine post_bind.2 (.find (fun isRaw hraw => ?_) fun _ => trivial)
  refine post_bind.2 (.find (fun isStringUnion hliterals => ?_) fun _ => trivial)
  have halias : (request.asReference && !subject.isEnumReference && isStringUnion &&
      subject.named.isSome) = false := by
    cases hasked : request.asReference with
    | false => rfl
    | true =>
      cases isStringUnion with
      | false => simp
      | true => exact absurd hliterals (h.unaliased hasked)
  dsimp only
  rw [halias]
  refine h.post_subjectName.bind ?_
  rintro _ _ ⟨rfl, rfl⟩
  exact h.post_takeUp (h.guarded isRaw hraw)

end Overridden

/-! ## What is answered -/

/-- What stands beside the reference to a given definition, in an answer to a request that is made
at the first progress and answered at the second. -/
inductive BesideGiven (catalog : Catalog) (request : Request) (subject : Subject) (symbol : Symbol)
    (p q : Progress) : Definition → Prop
  /-- All keywords of the owner, where the name is under construction. -/
  | again (hbuilding : p.context.isBuilding symbol.name = true) :
      BesideGiven catalog request subject symbol p q (ownerKeywords request.owner)
  /-- The descriptive keywords of the owner. -/
  | descriptive (hnew : p.context.isBuilding symbol.name = false) :
      BesideGiven catalog request subject symbol p q (ownerKeywords request.owner).refAnnotations
  /-- The descriptive keywords of the schema, with those of the owner, where it was built in place. -/
  | inPlace {raw : Bool} {annotations : Annotations} {schema : Definition}
      (hnew : p.context.isBuilding symbol.name = false)
      (hname : catalog.refersByName subject symbol = false)
      (hannotations : catalog.description subject.describing = .ok annotations)
      (hschema : catalog.Defined (catalog.Yields q) request.unionKeyword request.owner subject raw
        (annotations.definition.merge (ownerKeywords request.owner)) schema) :
      BesideGiven catalog request subject symbol p q schema.refAnnotations

/-- Where a request is made does not matter for that. -/
theorem BesideGiven.of_above {above : List Frame} {beside : Definition}
    (h : catalog.BesideGiven { request with above } subject symbol p q beside) :
    catalog.BesideGiven request subject symbol p q beside := by
  cases h with
  | again hbuilding => exact .again hbuilding
  | descriptive hnew => exact .descriptive hnew
  | inPlace hnew hname hannotations hschema => exact .inPlace hnew hname hannotations hschema

end Catalog

/-- What is given is in the table from the start. -/
theorem Reached.isReffed_given {catalog : Catalog} {p : Progress} (h : Reached catalog p)
    {name : String} (hgiven : Dict.contains catalog.overrides name = true) :
    p.context.isReffed name = true := by
  induction h with
  | fresh root => exact hgiven
  | step _ hstep ih => exact hstep.grows.reffed name ih
  | applied _ chain ih => exact ih
  | completed _ _ _ ih => exact (Grows.completed _ _ _).reffed name ih

/-- A reference has no descriptive keywords of its own. -/
theorem Definition.refAnnotations_reference_merge {path : String} {keywords : Definition}
    (hkeywords : keywords.HasUniqueKeys) :
    ((reference path).merge keywords).refAnnotations = keywords.refAnnotations := by
  have hdescriptive : ∀ schema : Definition,
      schema.refAnnotations = schema.filter fun entry => descriptive.contains entry.1 := fun _ => rfl
  rw [hdescriptive, hdescriptive, Definition.merge, Dict.filter_extend]
  exact Dict.ofEntries_of_nodup (hkeywords.nodup.sublist (List.filter_sublist.map _))

namespace Catalog

open BuildM

variable {catalog : Catalog} {request : Request} {subject : Subject} {symbol : Symbol}
  {p q : Progress} {journal : List Event} {listing : Listing} {kept : KeptProperty}
  {annotations : Annotations} {answer : Definition}

namespace Overridden

/-- What carrying out the plan comes to is a reference to the given definition. -/
theorem exists_beside (h : catalog.Overridden request subject symbol) {plan : Plan}
    {done : Definition} (howner : ∀ o, request.owner = some o → catalog.Describes o) (hq : Reached catalog q)
    (htaken : catalog.TakenUp subject symbol p plan)
    (hcarried : Contract.Carried catalog request ⟨subject, plan⟩ q done) :
    ∃ beside, catalog.BesideGiven request subject symbol p q beside ∧
      done = (q.context.refTo symbol.name).merge beside := by
  obtain ⟨hname, htaken⟩ := htaken
  have hreffed : q.context.isReffed plan.name = true := hname ▸ hq.isReffed_given h.given
  have hasIs : plan.token = none ∨ q.context.isReffed plan.name = false → plan.token = none :=
    fun hends => hends.resolve_right (by simp [hreffed])
  cases hcarried with
  | schema hinline hannotations hschema _ hends =>
    rcases htaken with ⟨_, hreference, _⟩ | ⟨hnew, hsome, hplaced⟩
    · cases hinline.symm.trans hreference
    · cases hends with
      | asIs hends =>
        rw [hasIs hends] at hsome
        cases hsome
      | linked _ _ _ =>
        exact ⟨_, .inPlace hnew (hplaced hinline) hannotations hschema, by rw [hname]⟩
  | reference _ _ hends =>
    rcases htaken with ⟨hbuilding, _, hnone⟩ | ⟨hnew, hsome, _⟩
    · cases hends with
      | asIs _ => exact ⟨_, .again hbuilding, by rw [hname]⟩
      | linked htoken _ _ => cases hnone.symm.trans htoken
    · cases hends with
      | asIs hends =>
        rw [hasIs hends] at hsome
        cases hsome
      | linked _ _ _ =>
        refine ⟨_, .descriptive hnew, ?_⟩
        rw [hname, Context.refTo,
          Definition.refAnnotations_reference_merge (hasUniqueKeys_ownerKeywords howner)]

/-- A request whose subject goes by the name of a given definition is answered by a reference to it.
-/
theorem post_buildWithin (h : catalog.Overridden request subject symbol) (hp : Reached catalog p)
    (hdescribed : catalog.Described request)
    (hsubject : catalog.graph.unwrap (catalog.graph.types.size + 1) request.type request.named =
      .ok subject) (hunsettled : settled? request.owner = none) (depth : Nat) :
    (catalog.buildWithin depth request).Post p
      (fun answer q => Grows p q ∧ ∃ beside, catalog.BesideGiven request subject symbol p q beside ∧
        answer = catalog.hook ((p.context.refTo symbol.name).merge beside)) fun _ _ => True := by
  have hholds : (changes catalog p).Holds p := ⟨hp.sound, hp, fun _ => .same rfl⟩
  cases depth with
  | zero => exact (post_throw _).2 trivial
  | succ depth =>
    have htype := (TypeGraph.unwrap_subject hsubject).1
    rw [buildWithin, respond, hsubject]
    refine post_bind.2 (.take (fun found hfound => ?_) fun _ _ => trivial)
    obtain rfl := Except.ok.inj hfound
    rw [hunsettled]
    have hplan := (h.post_plan.and (Contract.post_plan hholds request htype)).mono
      (fun _ _ hplan => hplan) fun _ _ _ => trivial
    refine hplan.bind ?_
    rintro plan q ⟨htaken, hq, hplanned⟩
    have hstarts : (changes catalog p).Starts depth request p ⟨subject, plan⟩ :=
      ⟨hdescribed, trivial, hsubject, hunsettled⟩
    refine ((Contract.post_carryOut (Contract.answers_buildWithin depth) hstarts hplanned hq).mono
      (fun _ _ hcarried => hcarried) fun _ _ _ => trivial).bind ?_
    rintro done r ⟨hr, hpr, _, _, hcarried⟩
    obtain ⟨beside, hbeside, rfl⟩ := h.exists_beside (fun o howner => (hdescribed o howner).1)
      hr.inv.1 htaken hcarried
    rw [refTo_of_grows hpr.toGrows]
    exact (post_pure _).2 ⟨hpr.toGrows, beside, hbeside, rfl⟩

end Overridden

end Catalog

end TypeSchema
