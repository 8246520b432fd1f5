import TypeSchema.Proofs.Building.Origins
import TypeSchema.Proofs.References.Occurrence

/-!
# Contracts

Schemas are built by rules that ask for the schemas of parts, and what answers is built from the
same rules again.  What holds of a whole call is therefore proved once for all rules and used for
many statements: a `Contract` says which property of the progress is kept (`inv`), which types a
call may begin with (`root`), which requests may be made and with how much depth left (`ask`), what
the references in answers may point to (`target`), and how a construction may fail (`fault`).

Its fields are the obligations of one step.  Three are about what happens to the progress: a place
in the table is taken (`inv_promoted`), it is filled (`inv_completed`), and whatever else is done
writes nothing there (`inv_step`).  `ask_part` is about going down from a type to one of its parts,
where `Catalog.Opens` says all there is to know of the construction under way and `Catalog.Asks`
which parts a rule can ask for.  That every request is answered as the contract says follows in
`TypeSchema.Proofs.Building.Descent`, by induction on the depth.

Below a contract stands a small logic of constructions: `Contract.Answers` threads the invariant and
`Settles` through sequences and loops, so that the proof about a rule reads like the rule.
-/

set_option autoImplicit false

namespace TypeSchema

namespace Catalog

/-! ## What says nothing -/

mutual

/-- The answer to the request may be the schema without keywords. -/
inductive Hollow (catalog : Catalog) : Request → Prop
  /-- The owner is to be ignored and has no keywords. -/
  | ignored {request : Request} {owner : Owner} (howner : request.owner = some owner)
      (hignored : owner.annotations.isIgnored = true)
      (hempty : owner.annotations.definition = []) : Hollow catalog request
  | built {request : Request} {subject : Subject}
      (hsubject : catalog.graph.unwrap (catalog.graph.types.size + 1) request.type request.named =
        .ok subject)
      (h : HollowSubject catalog subject) : Hollow catalog request
  /-- The hook takes all keywords away. -/
  | hooked {request : Request} {definition : Definition} (hsome : definition ≠ [])
      (hhook : catalog.hook definition = []) : Hollow catalog request

/-- The structure of the subject yields no keyword. -/
inductive HollowSubject (catalog : Catalog) : Subject → Prop
  | any {subject : Subject} (hkind : subject.node.kind = .any) : HollowSubject catalog subject
  | unknown {subject : Subject} (hkind : subject.node.kind = .unknown) :
      HollowSubject catalog subject
  | enum {subject : Subject} {members : List EnumMember} (hkind : subject.node.kind = .enum members)
      (hvalues : Enumeration.values members = []) : HollowSubject catalog subject
  | union {subject : Subject} {members : List TypeId} {id : TypeId} {node : TypeNode}
      {owner : Option Owner} (hkind : subject.node.kind = .union members) (hmem : id ∈ members)
      (hnode : catalog.graph.lookupType id = .ok node) (howner : catalog.OwnsMember node owner)
      (h : Hollow catalog { catalog.member id node.aliasSymbol with owner := owner }) :
      HollowSubject catalog subject
  | intersection {subject : Subject} {members : List TypeId} {id : TypeId}
      (hkind : subject.node.kind = .intersection members) (hmem : id ∈ members)
      (h : Hollow catalog (catalog.member id)) : HollowSubject catalog subject

end

/-- Where a request is made does not matter for that. -/
theorem Hollow.of_above {catalog : Catalog} {request : Request} {chain : List Frame}
    (h : catalog.Hollow { request with above := chain }) : catalog.Hollow request := by
  cases h with
  | ignored howner hignored hempty => exact .ignored howner hignored hempty
  | built hsubject h => exact .built hsubject h
  | hooked hsome hhook => exact .hooked hsome hhook

/-! ## How a construction is opened -/

/-- What taking up a construction does to the names under construction. -/
inductive TakesUp (frame : Frame) (before : Dict Nat) : Dict Nat → Prop
  /-- Nothing guards the construction. -/
  | unguarded (hguarded : frame.isGuarded = false) (htoken : frame.plan.token = none) :
      TakesUp frame before before
  /-- The name is met again while it is under construction. -/
  | again (hguarded : frame.isGuarded = true)
      (hbuilding : Dict.contains before frame.plan.name = true)
      (htoken : frame.plan.token = none) (hreference : frame.plan.isReference = true) :
      TakesUp frame before before
  /-- The construction of the name begins. -/
  | first {token : Nat} (hguarded : frame.isGuarded = true)
      (hnew : ¬Dict.contains before frame.plan.name = true)
      (htoken : frame.plan.token = some token) :
      TakesUp frame before (Dict.insert before frame.plan.name token)

/-- Whoever was given no token left the names under construction as they were. -/
theorem TakesUp.eq_of_none {frame : Frame} {before after : Dict Nat}
    (h : TakesUp frame before after) (htoken : frame.plan.token = none) : after = before := by
  cases h with
  | unguarded _ _ => rfl
  | again _ _ _ _ => rfl
  | first _ _ hsome =>
    rw [htoken] at hsome
    cases hsome

/-- Only a guarded construction is given a token. -/
theorem TakesUp.isGuarded {frame : Frame} {before after : Dict Nat} {token : Nat}
    (h : TakesUp frame before after) (htoken : frame.plan.token = some token) :
    frame.isGuarded = true := by
  cases h with
  | unguarded _ hnone => cases hnone.symm.trans htoken
  | again hguarded _ _ _ => exact hguarded
  | first hguarded _ _ => exact hguarded

/-- Whoever was given the token ends the construction with it, as long as it is still the latest. -/
theorem TakesUp.leave {frame : Frame} {before : Dict Nat} {context : Context} {token : Nat}
    (h : TakesUp frame before context.guard) (htoken : frame.plan.token = some token) :
    context.leave frame.plan.name token = (true, { context with guard := before }) := by
  generalize hafter : context.guard = after at h
  cases h with
  | unguarded _ hnone =>
    rw [htoken] at hnone
    cases hnone
  | again _ _ hnone _ =>
    rw [htoken] at hnone
    cases hnone
  | first _ hnew hsome =>
    rw [htoken] at hsome
    cases hsome
    simp [Context.leave, hafter, Dict.get?_insert, Dict.erase_insert hnew]

/-- What is known once a request has its plan. -/
structure Planned (catalog : Catalog) (request : Request) (p : Progress) (frame : Frame)
    (q : Progress) : Prop extends Grows p q where
  raw : catalog.graph.isRaw frame.subject.node = .ok frame.plan.isRaw
  named : catalog.Named q.context.names frame.subject frame.sourcedName
  sourced : catalog.Sourced frame.subject frame.plan.source
  guard : TakesUp frame p.context.guard q.context.guard
  table : Unwritten p q
  /-- Without a guard, only a union of string literals that was asked for by its name is referred
  to. -/
  reference : frame.isGuarded = false → frame.plan.isReference = true →
    catalog.graph.isStringUnion frame.subject.node = .ok true ∧
      frame.subject.named.isSome = true
  /-- A reference is made where it was asked for, wherever it can be, or to what is under
  construction. -/
  wanted : frame.plan.isReference = true → request.asReference = true ∨
    catalog.options.reference = true ∨ p.context.isBuilding frame.plan.name = true

/-- What is known when the rule for the structure of a subject is applied: the request was made at
the first progress and has come to the last. -/
inductive Opens (catalog : Catalog) (request : Request) (p : Progress) (frame : Frame) :
    Progress → Prop
  | inline {q : Progress}
      (hsubject : catalog.graph.unwrap (catalog.graph.types.size + 1) request.type request.named =
        .ok frame.subject)
      (hplan : catalog.Planned request p frame q) (hinline : frame.plan.isReference = false) :
      Opens catalog request p frame q
  | shared {q : Progress}
      (hsubject : catalog.graph.unwrap (catalog.graph.types.size + 1) request.type request.named =
        .ok frame.subject)
      (hplan : catalog.Planned request p frame q) (hreference : frame.plan.isReference = true)
      (hnew : q.context.isReffed frame.plan.name = false) :
      Opens catalog request p frame ((q.act (.referred frame)).act (.promoted frame))

/-- What was taken up is ended: the names under construction are those of before the request. -/
theorem Planned.settles {catalog : Catalog} {request : Request} {p q r s : Progress}
    {frame : Frame} (hplan : catalog.Planned request p frame q) (hqr : Settles q r)
    (hcontext : s.context = { r.context with guard := p.context.guard })
    (hjournal : r.journal <:+ s.journal)
    (hwritings : ∀ name, writings s.journal name = writings r.journal name) : Settles p s where
  root := by simp [hcontext, hqr.root, hplan.root]
  holders name id h := by simpa [hcontext] using hqr.holders name id (hplan.holders name id h)
  reffed name h := by
    simpa [hcontext, Context.isReffed] using hqr.reffed name (hplan.reffed name h)
  journal := (hplan.journal.trans hqr.journal).trans hjournal
  guard := by simp [hcontext]
  entry name := by
    have hended : Unwritten r s := ⟨by rw [hcontext], hwritings⟩
    exact ((hplan.table.entry name).trans (hqr.entry name)).trans (hended.entry name)

namespace Opens

variable {catalog : Catalog} {request : Request} {p q : Progress} {frame : Frame}

theorem subject (h : catalog.Opens request p frame q) :
    catalog.graph.unwrap (catalog.graph.types.size + 1) request.type request.named =
      .ok frame.subject := by
  cases h with
  | inline hsubject _ _ => exact hsubject
  | shared hsubject _ _ _ => exact hsubject

theorem raw (h : catalog.Opens request p frame q) :
    catalog.graph.isRaw frame.subject.node = .ok frame.plan.isRaw := by
  cases h with
  | inline _ hplan _ => exact hplan.raw
  | shared _ hplan _ _ => exact hplan.raw

theorem named (h : catalog.Opens request p frame q) :
    catalog.Named q.context.names frame.subject frame.sourcedName := by
  cases h with
  | inline _ hplan _ => exact hplan.named
  | shared _ hplan _ _ => exact hplan.named

theorem guard (h : catalog.Opens request p frame q) :
    TakesUp frame p.context.guard q.context.guard := by
  cases h with
  | inline _ hplan _ => exact hplan.guard
  | shared _ hplan _ _ => exact hplan.guard

theorem grows (h : catalog.Opens request p frame q) : Grows p q := by
  cases h with
  | inline _ hplan _ => exact hplan.toGrows
  | shared _ hplan _ hnew =>
    have hreferred : catalog.Step _ _ := .referred hplan.named
    have hpromoted : catalog.Step _ _ := .promoted (hplan.named.grows hreferred.grows) hnew
    exact (hplan.toGrows.trans hreferred.grows).trans hpromoted.grows

theorem wanted (h : catalog.Opens request p frame q) (hreference : frame.plan.isReference = true) :
    request.asReference = true ∨ catalog.options.reference = true ∨
      p.context.isBuilding frame.plan.name = true := by
  cases h with
  | inline _ hplan _ => exact hplan.wanted hreference
  | shared _ hplan _ _ => exact hplan.wanted hreference

/-- What is to be a reference and has its rule applied is put into the table first. -/
theorem promotes (h : catalog.Opens request p frame q) (hreference : frame.plan.isReference = true) :
    p.context.isReffed frame.plan.name = false ∧ .promoted frame ∈ q.journal ∧
      q.context.isReffed frame.plan.name = true := by
  cases h with
  | inline _ _ hinline =>
    rw [hreference] at hinline
    cases hinline
  | shared _ hplan _ hnew =>
    refine ⟨?_, List.mem_cons_self, by simp [Event.effect, Context.isReffed_promote]⟩
    rwa [Context.isReffed, hplan.table.reffed] at hnew

end Opens

end Catalog

/-! ## Contracts -/

/-- What is kept by every step of a construction, and what every answer is. -/
structure Contract (catalog : Catalog) where
  /-- Holds of the progress at all times. -/
  inv : Progress → Prop
  /-- The types that a call may begin with. -/
  root : TypeId → Prop
  /-- The requests that may be made, with the depth that is left for them. -/
  ask : Nat → Request → Progress → Prop
  /-- What references in answers may point to. -/
  target : String → Progress → Prop
  /-- How a construction may fail. -/
  fault : Error → Prop
  inv_step : ∀ {p q}, p.context.names.Sound → inv p → catalog.Step p q → catalog.Origin inv p q →
    Unwritten p q → inv q
  inv_promoted : ∀ {depth request p frame q}, ask (depth + 1) request p →
    frame.plan.isReference = true → catalog.Opens request p frame (q.act (.promoted frame)) →
    inv q → catalog.Step q (q.act (.promoted frame)) → inv (q.act (.promoted frame))
  inv_completed : ∀ {p : Progress} {frame : Frame} {definition : Definition}, inv p →
    .promoted frame ∈ p.journal → catalog.Completes p frame definition →
    definition.RefersOnly (fun t => target t p) →
    (definition = [] → catalog.HollowSubject frame.subject) →
    inv (p.act (.completed frame definition))
  inv_known : ∀ {p name definition}, inv p → Dict.get? p.context.reffed name = some definition →
    definition.RefersOnly (fun t => target t p)
  inv_applied : ∀ {depth request p frame q}, ask (depth + 1) request p →
    catalog.Opens request p frame q → inv q → inv (q.act (.applied (frame :: request.above)))
  ask_root : ∀ {id named p}, root id → p.context.guard = [] →
    ask catalog.depthBound (catalog.member id named) p
  ask_settles : ∀ {depth request p q}, ask depth request p → Settles p q → ask depth request q
  ask_part : ∀ {depth request p frame q part}, ask (depth + 1) request p →
    catalog.Opens request p frame q → inv q → catalog.Asks request frame.subject part →
    ask depth { part with above := frame :: request.above } q
  target_grows : ∀ {text p q}, target text p → Grows p q → target text q
  target_reffed : ∀ {name p}, p.context.isReffed name = true →
    target (p.context.root.path ++ name) p
  extend : ∀ {id symbol annotations extended p}, catalog.graph.lookupSymbol id = .ok symbol →
    annotations.definition.RefersOnly (fun t => target t p) →
    catalog.reader.extend annotations symbol = .ok extended →
    extended.definition.RefersOnly (fun t => target t p)
  hook : ∀ {definition p}, definition.RefersOnly (fun t => target t p) →
    (catalog.hook definition).RefersOnly (fun t => target t p)
  fault_unwrap : ∀ {depth request p error}, ask depth request p →
    catalog.graph.unwrap (catalog.graph.types.size + 1) request.type request.named =
      .error error → fault error
  fault_exhausted : ∀ {request p}, inv p → ask 0 request p → fault (.endlessType request.type)
  fault_other : ∀ {error}, (∀ id, error ≠ .endlessType id) → fault error

namespace Contract

/-- The contract that keeps an invariant and asks for nothing else. -/
def ofInvariant {catalog : Catalog} (inv : Progress → Prop)
    (step : ∀ {p q}, inv p → catalog.Step p q → catalog.Origin inv p q → inv q)
    (completed : ∀ {p frame definition}, inv p → .promoted frame ∈ p.journal →
      catalog.Completes p frame definition →
      (definition = [] → catalog.HollowSubject frame.subject) →
      inv (p.act (.completed frame definition)))
    (applied : ∀ {p chain}, inv p → inv (p.act (.applied chain))) : Contract catalog where
  inv := inv
  root _ := True
  ask _ _ _ := True
  target _ _ := True
  fault _ := True
  inv_step _ h hstep horigin _ := step h hstep horigin
  inv_promoted _ _ _ h hstep := step h hstep (.act (by simp) (by simp) (by simp))
  inv_completed h hpromoted hcompletes _ hhollow := completed h hpromoted hcompletes hhollow
  inv_known _ _ := fun _ _ => trivial
  inv_applied _ _ h := applied h
  ask_root _ _ := trivial
  ask_settles _ _ := trivial
  ask_part _ _ _ _ := trivial
  target_grows _ _ := trivial
  target_reffed _ := trivial
  extend _ _ _ := fun _ _ => trivial
  hook _ := fun _ _ => trivial
  fault_unwrap _ _ := trivial
  fault_exhausted _ _ := trivial
  fault_other _ := trivial

variable {catalog : Catalog} (C : Contract catalog) {α β : Type}

/-- What holds at all times. -/
structure Holds (p : Progress) : Prop where
  sound : p.context.names.Sound
  inv : C.inv p

/-- What the value refers to is allowed. -/
def Allows (value : Json) (p : Progress) : Prop :=
  value.RefersOnly fun t => C.target t p

/-- All references in the schema point to what they may point to. -/
def Good (definition : Definition) (p : Progress) : Prop :=
  definition.RefersOnly fun t => C.target t p

/-- All references in the schema point to what they may point to, and it says something. -/
def Filled (definition : Definition) (p : Progress) : Prop :=
  C.Good definition p ∧ definition ≠ []

/-- What the request may be answered with: a schema whose references point to what they may point
to, and which says something unless there is nothing to say. -/
def Served (request : Request) (definition : Definition) (p : Progress) : Prop :=
  C.Good definition p ∧ (definition = [] → catalog.Hollow request)

/-- What the rule for a structure may answer with. -/
def Shaped (subject : Subject) (definition : Definition) (p : Progress) : Prop :=
  C.Good definition p ∧ (definition = [] → catalog.HollowSubject subject)

/-- From a progress at which everything holds, the construction fails as it may, or it answers and
settles, and the answer is as stated. -/
def Answers (p : Progress) (m : BuildM α) (good : α → Progress → Prop) : Prop :=
  C.Holds p → m.Post p (fun a q => C.Holds q ∧ Settles p q ∧ good a q)
    fun e q => C.fault e ∧ C.inv q

/-- The builder answers the requests as stated, whenever it is asked after the given progress. -/
def Serves (answers : Progress → Request → Definition → Prop) (p : Progress) (build : Builder)
    (asks : Request → Prop) : Prop :=
  ∀ request, asks request → ∀ q, Settles p q →
    C.Answers q (build request) fun definition r => answers r request definition

variable {C} {p q : Progress} {m : BuildM α} {good : α → Progress → Prop}
  {G : β → Progress → Prop}

theorem Holds.step (h : C.Holds p) (hstep : catalog.Step p q) (horigin : catalog.Origin C.inv p q)
    (htable : Unwritten p q) : C.Holds q :=
  ⟨hstep.sound h.sound, C.inv_step h.sound h.inv hstep horigin htable⟩

theorem Allows.grows {value : Json} (h : C.Allows value p) (hpq : Grows p q) : C.Allows value q :=
  h.mono fun _ ht => C.target_grows ht hpq

theorem Good.grows {definition : Definition} (h : C.Good definition p) (hpq : Grows p q) :
    C.Good definition q :=
  h.mono fun _ ht => C.target_grows ht hpq

theorem Filled.shaped {definition : Definition} {subject : Subject} (h : C.Filled definition p) :
    C.Shaped subject definition p :=
  ⟨h.1, fun hempty => absurd hempty h.2⟩

theorem Serves.later {answers : Progress → Request → Definition → Prop} {build : Builder}
    {asks : Request → Prop} (h : C.Serves answers p build asks) (hpq : Settles p q) :
    C.Serves answers q build asks :=
  fun request hrequest r hqr => h request hrequest r (hpq.trans hqr)

/-! ## The logic of constructions -/

/-- Between the request and the answer the progress may settle first. -/
theorem Answers.after (h : C.Answers q m good) (hpq : Settles p q) (hq : C.Holds q) :
    m.Post q (fun a r => C.Holds r ∧ Settles p r ∧ good a r) fun e r => C.fault e ∧ C.inv r :=
  (h hq).imp fun _ _ ⟨hr, hqr, hgood⟩ => ⟨hr, hpq.trans hqr, hgood⟩

theorem Answers.imp {good₂ : α → Progress → Prop} (h : C.Answers p m good)
    (himp : ∀ a q, good a q → good₂ a q) : C.Answers p m good₂ :=
  fun hp => (h hp).imp fun a q ⟨hq, hpq, hgood⟩ => ⟨hq, hpq, himp a q hgood⟩

/-- What holds of an answer holds where everything has settled since the request. -/
theorem Answers.settled (h : C.Answers p m good) :
    C.Answers p m fun a q => Settles p q ∧ good a q :=
  fun hp => (h hp).imp fun _ _ ⟨hq, hpq, hgood⟩ => ⟨hq, hpq, hpq, hgood⟩

theorem Answers.pure {a : α} (h : good a p) : C.Answers p (pure a) good :=
  fun hp => BuildM.post_pure a |>.2 ⟨hp, .refl p, h⟩

theorem Answers.throw {error : Error} (h : ∀ id, error ≠ .endlessType id) :
    C.Answers p (throw error : BuildM α) good :=
  fun hp => BuildM.post_throw error |>.2 ⟨C.fault_other h, hp.inv⟩

/-- What comes after a failure does not matter. -/
theorem Answers.throw_bind {error : Error} {f : α → BuildM β}
    (h : ∀ id, error ≠ .endlessType id) :
    C.Answers p ((MonadExcept.throw error : BuildM α) >>= f) G :=
  fun hp => BuildM.post_bind.2 ((BuildM.post_throw error).2 ⟨C.fault_other h, hp.inv⟩)

theorem Answers.bind {f : α → BuildM β} (hm : C.Answers p m good)
    (hf : ∀ a q, Settles p q → good a q → C.Answers q (f a) G) :
    C.Answers p (m >>= f) G :=
  fun hp => (hm hp).bind fun a q ⟨hq, hpq, hgood⟩ => (hf a q hpq hgood).after hpq hq

/-- An answer is changed on its way up. -/
theorem Answers.map {f : α → β} (hm : C.Answers p m good)
    (hf : ∀ a q, good a q → G (f a) q) : C.Answers p (do return f (← m)) G :=
  hm.bind fun a q _ hgood => .pure (hf a q hgood)

theorem Answers.context {f : Context → BuildM β} (hf : C.Answers p (f p.context) G) :
    C.Answers p (BuildM.context >>= f) G :=
  fun hp => BuildM.post_bind.2 (BuildM.post_context.2 (hf hp))

theorem Answers.find {found : Except Missing α} {f : α → BuildM β}
    (hf : ∀ a, found = .ok a → C.Answers p (f a) G) :
    C.Answers p (BuildM.find found >>= f) G :=
  fun hp => BuildM.post_bind.2 <| .find (fun a ha => hf a ha hp) fun _ =>
    ⟨C.fault_other fun _ => nofun, hp.inv⟩

theorem Answers.take {result : Except Error α} {f : α → BuildM β}
    (hf : ∀ a, result = .ok a → C.Answers p (f a) G)
    (hfault : ∀ e, result = .error e → C.fault e) :
    C.Answers p (BuildM.take result >>= f) G :=
  fun hp => BuildM.post_bind.2 <| .take (fun a ha => hf a ha hp) fun e he => ⟨hfault e he, hp.inv⟩

/-- A step that settles at once. -/
theorem Answers.step {m : BuildM Unit} {f : Unit → BuildM β}
    (hm : ∀ {Q E}, Q () q → m.Post p Q E) (hstep : catalog.Step p q) (horigin : catalog.Origin C.inv p q)
    (hpq : Settles p q) (hf : C.Answers q (f ()) G) : C.Answers p (m >>= f) G :=
  fun hp => BuildM.post_bind.2 (hm (hf.after hpq (hp.step hstep horigin (hstep.unwritten hpq))))

theorem Answers.note {entry : LogEntry} {f : Unit → BuildM β}
    (hf : C.Answers (p.note entry) (f ()) G) :
    C.Answers p (BuildM.note entry >>= f) G :=
  .step BuildM.post_note.2 (.noted entry) (.of_same rfl rfl) (.note entry) hf

/-! ## Loops -/

/-- Each answer of a loop is as stated of what it is the answer to. -/
theorem Answers.each {f : α → BuildM β} {R : Progress → α → β → Prop} (l : List α)
    (hmono : ∀ a b q r, Settles q r → R q a b → R r a b)
    (h : ∀ a ∈ l, ∀ q, Settles p q → C.Answers q (f a) fun b r => R r a b) :
    C.Answers p (l.mapM f) fun bs q => List.Forall₂ (R q) l bs := by
  induction l generalizing p with
  | nil =>
    rw [List.mapM_nil]
    exact .pure .nil
  | cons a rest ih =>
    rw [List.mapM_cons]
    refine (h a List.mem_cons_self p (.refl p)).bind fun b q hpq hb => ?_
    have hrest := ih fun c hc r hqr => h c (List.mem_cons_of_mem _ hc) r (hpq.trans hqr)
    exact hrest.bind fun bs r hqr hbs => .pure (.cons (hmono a b q r hqr hb) hbs)

/-- A loop that enters what is left by each element. -/
theorem Answers.gather {σ : Type} {f : σ → α → BuildM σ} {enter : σ → β → σ}
    {R : Progress → α → β → Prop} (l : List α) (start : σ)
    (hmono : ∀ a b q r, Settles q r → R q a b → R r a b)
    (h : ∀ a ∈ l, ∀ done q, Settles p q →
      C.Answers q (f done a) fun next r => ∃ b, R r a b ∧ next = enter done b) :
    C.Answers p (l.foldlM f start) fun done q =>
      ∃ bs, List.Forall₂ (R q) l bs ∧ done = bs.foldl enter start := by
  induction l generalizing p start with
  | nil =>
    rw [List.foldlM_nil]
    exact .pure ⟨[], .nil, rfl⟩
  | cons a rest ih =>
    rw [List.foldlM_cons]
    refine (h a List.mem_cons_self start p (.refl p)).bind ?_
    rintro _ q hpq ⟨b, hb, rfl⟩
    have hrest := ih (enter start b) fun c hc done r hqr =>
      h c (List.mem_cons_of_mem _ hc) done r (hpq.trans hqr)
    refine hrest.settled.imp ?_
    rintro done r ⟨hqr, bs, hbs, rfl⟩
    exact ⟨b :: bs, .cons (hmono a b q r hqr hb) hbs, rfl⟩

theorem Answers.mapM {f : α → BuildM β} (l : List α)
    (hmono : ∀ b q r, Settles q r → G b q → G b r)
    (h : ∀ a ∈ l, ∀ q, Settles p q → C.Answers q (f a) G) :
    C.Answers p (l.mapM f) fun bs q => ∀ b ∈ bs, G b q := by
  refine (Answers.each (R := fun q _ b => G b q) l (fun _ b q r => hmono b q r) h).imp ?_
  intro bs q hbs
  clear h
  induction hbs with
  | nil => exact List.forall_mem_nil _
  | cons hb _ ih => exact List.forall_mem_cons.2 ⟨hb, ih⟩

theorem Answers.foldlM {f : β → α → BuildM β} {b : β} (l : List α) (start : G b p)
    (h : ∀ a ∈ l, ∀ done q, Settles p q → G done q → C.Answers q (f done a) G) :
    C.Answers p (l.foldlM f b) G := by
  intro hp
  refine BuildM.Post.foldlM (J := fun done q => C.Holds q ∧ Settles p q ∧ G done q) l
    ⟨hp, .refl p, start⟩ ?_
  rintro a ha done q ⟨hq, hpq, hdone⟩
  exact (h a ha done q hpq hdone).after hpq hq

theorem Answers.filterM {f : α → BuildM Bool} (keep : α → Bool) (l : List α)
    (h : ∀ a ∈ l, ∀ q, Settles p q → C.Answers q (f a) fun b _ => b = keep a) :
    C.Answers p (l.filterM f) fun as _ => as = l.filter keep := by
  intro hp
  refine (BuildM.Post.filterM keep (J := fun q => C.Holds q ∧ Settles p q) l ⟨hp, .refl p⟩ ?_).imp ?_
  · rintro a ha q ⟨hq, hpq⟩
    exact (h a ha q hpq hq).imp fun b r ⟨hr, hqr, hb⟩ => ⟨hb, hr, hpq.trans hqr⟩
  · exact fun _ _ ⟨has, hq, hpq⟩ => ⟨hq, hpq, has⟩

theorem Answers.forM {f : α → BuildM PUnit} (l : List α)
    (h : ∀ a ∈ l, ∀ q, Settles p q → C.Answers q (f a) fun _ _ => True) :
    C.Answers p (l.forM f) fun _ _ => True := by
  intro hp
  refine (BuildM.Post.forM (J := fun q => C.Holds q ∧ Settles p q) l ⟨hp, .refl p⟩ ?_).imp ?_
  · rintro a ha q ⟨hq, hpq⟩
    exact (h a ha q hpq hq).imp fun _ r ⟨hr, hqr, _⟩ => ⟨hr, hpq.trans hqr⟩
  · exact fun _ _ ⟨hq, hpq⟩ => ⟨hq, hpq, trivial⟩

theorem Answers.anyM {f : α → BuildM Bool} (l : List α)
    (h : ∀ a ∈ l, ∀ q, Settles p q → C.Answers q (f a) fun _ _ => True) :
    C.Answers p (l.anyM f) fun _ _ => True := by
  intro hp
  refine (BuildM.Post.anyM (J := fun q => C.Holds q ∧ Settles p q) l ⟨hp, .refl p⟩ ?_).imp ?_
  · rintro a ha q ⟨hq, hpq⟩
    exact (h a ha q hpq hq).imp fun _ r ⟨hr, hqr, _⟩ => ⟨hr, hpq.trans hqr⟩
  · exact fun _ _ ⟨hq, hpq⟩ => ⟨hq, hpq, trivial⟩

end Contract

end TypeSchema
