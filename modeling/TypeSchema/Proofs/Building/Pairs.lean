import Mathlib.Data.List.Forall2
import TypeSchema.Proofs.Annotations
import TypeSchema.Proofs.Building.Runs
import TypeSchema.Proofs.Graph.Ranges

/-!
# Two runs side by side

What a construction does may depend on where it starts and for whom.  To say that it does not, two
runs are compared: `BuildM.Post₂ m m' p p' Q E` says that `m` from `p` and `m'` from `p'` both
answer, with `Q` between the answers and what they leave, or that both fail with the same error, of
which `E` holds.

A construction made of rules keeps two runs together as long as no rule can tell their progresses
apart.  An `Accord` is a relation between progresses under which that is so: what the rules do on
their own, which is to log and to list objects, leads from related progresses to related ones.  How
definitions are stored and constructions taken up is not its concern, as no rule does so; names are
handed out alike in a `NamingAccord`, where the two have the same ones.

A run beside itself is a single run.  So what is proved here of pairs also says how a single run can
fail: `Catalog.Raises` lists the ways in a catalog that is whole, and a lookup that finds nothing is
not among them.
-/

set_option autoImplicit false

namespace TypeSchema

/-! ## Pairs of runs -/

namespace BuildM

variable {α β : Type}

/-- Both constructions answer and `Q` holds of the answers and what they leave, or both fail with
one error, of which `E` holds. -/
def Post₂ (m m' : BuildM α) (p p' : Progress) (Q : α → α → Progress → Progress → Prop)
    (E : Error → Prop) : Prop :=
  match m.exec p, m'.exec p' with
  | (.ok a, q), (.ok a', q') => Q a a' q q'
  | (.error e, _), (.error e', _) => e' = e ∧ E e
  | (.ok _, _), (.error _, _) => False
  | (.error _, _), (.ok _, _) => False

variable {m m' : BuildM α} {p p' : Progress} {Q Q' : α → α → Progress → Progress → Prop}
  {E : Error → Prop}

theorem Post₂.imp (h : m.Post₂ m' p p' Q E) (hQ : ∀ a a' q q', Q a a' q q' → Q' a a' q q') :
    m.Post₂ m' p p' Q' E := by
  rw [Post₂] at h ⊢
  generalize m.exec p = done at h ⊢
  generalize m'.exec p' = done' at h ⊢
  obtain ⟨e | a, q⟩ := done <;> obtain ⟨e' | a', q'⟩ := done'
  · exact h
  · exact h
  · exact h
  · exact hQ a a' q q' h

@[simp] theorem post₂_pure (a a' : α) :
    (pure a : BuildM α).Post₂ (pure a') p p' Q E ↔ Q a a' p p' := Iff.rfl

@[simp] theorem post₂_throw (e e' : Error) :
    (throw e : BuildM α).Post₂ (throw e') p p' Q E ↔ e' = e ∧ E e := Iff.rfl

/-- Two sequences go side by side if their first parts leave what the rest of both needs. -/
theorem Post₂.bind {f f' : α → BuildM β} {R : β → β → Progress → Progress → Prop}
    (hm : m.Post₂ m' p p' Q E)
    (hf : ∀ a a' q q', Q a a' q q' → (f a).Post₂ (f' a') q q' R E) :
    (m >>= f).Post₂ (m' >>= f') p p' R E := by
  rw [Post₂] at hm ⊢
  rw [exec_bind, exec_bind]
  generalize m.exec p = done at hm ⊢
  generalize m'.exec p' = done' at hm ⊢
  obtain ⟨e | a, q⟩ := done <;> obtain ⟨e' | a', q'⟩ := done'
  · exact hm
  · exact hm.elim
  · exact hm.elim
  · exact hf a a' q q' hm

theorem post₂_context_bind {f f' : Context → BuildM β} {R : β → β → Progress → Progress → Prop} :
    (BuildM.context >>= f).Post₂ (BuildM.context >>= f') p p' R E ↔
      (f p.context).Post₂ (f' p'.context) p p' R E := Iff.rfl

theorem post₂_act_bind {event event' : Event} {f f' : Unit → BuildM β}
    {R : β → β → Progress → Progress → Prop} :
    (BuildM.act event >>= f).Post₂ (BuildM.act event' >>= f') p p' R E ↔
      (f ()).Post₂ (f' ()) (p.act event) (p'.act event') R E := Iff.rfl

theorem post₂_answer_bind {update update' : Context → α × Context} {f f' : α → BuildM β}
    {R : β → β → Progress → Progress → Prop} :
    (BuildM.answer update >>= f).Post₂ (BuildM.answer update' >>= f') p p' R E ↔
      (f (update p.context).1).Post₂ (f' (update' p'.context).1)
        (p.withContext (update p.context).2) (p'.withContext (update' p'.context).2) R E := Iff.rfl

/-- Both runs answer or both fail. -/
theorem Post₂.outcomes (h : m.Post₂ m' p p' Q E) :
    (∃ a a' q q', m.exec p = (.ok a, q) ∧ m'.exec p' = (.ok a', q') ∧ Q a a' q q') ∨
      ∃ e q q', m.exec p = (.error e, q) ∧ m'.exec p' = (.error e, q') := by
  rw [Post₂] at h
  split at h
  · rename_i a q a' q' hrun hrun'
    exact .inl ⟨a, a', q, q', hrun, hrun', h⟩
  · rename_i e q e' q' hrun hrun'
    exact .inr ⟨e, q, q', hrun, h.1 ▸ hrun'⟩
  · exact h.elim
  · exact h.elim

/-- A run beside itself is one run. -/
theorem Post₂.post (h : m.Post₂ m p p Q E) :
    m.Post p (fun a q => Q a a q q) fun e _ => E e := by
  rw [Post₂] at h
  rw [Post]
  generalize m.exec p = done at h ⊢
  obtain ⟨e | a, q⟩ := done
  · exact h.2
  · exact h

/-- What two runs have in common says of the first what becomes of the second. -/
theorem Post₂.exists_right (h : m.Post₂ m' p p' Q E) :
    m.Post p (fun a q => ∃ a' q', m'.exec p' = (.ok a', q') ∧ Q a a' q q')
      fun e _ => ∃ q', m'.exec p' = (.error e, q') := by
  rw [Post₂] at h
  rw [Post]
  generalize m.exec p = done at h ⊢
  generalize m'.exec p' = done' at h ⊢
  obtain ⟨e | a, q⟩ := done <;> obtain ⟨e' | a', q'⟩ := done'
  · exact ⟨q', h.1 ▸ rfl⟩
  · exact h.elim
  · exact h.elim
  · exact ⟨a', q', rfl, h⟩

/-- What is known of each of two runs is known of the two. -/
theorem Post₂.and_posts {P P' : α → Progress → Prop} (h : m.Post₂ m' p p' Q E)
    (hleft : m.Post p P fun _ _ => True) (hright : m'.Post p' P' fun _ _ => True) :
    m.Post₂ m' p p' (fun a a' q q' => Q a a' q q' ∧ P a q ∧ P' a' q') E := by
  rw [Post] at hleft hright
  rw [Post₂] at h ⊢
  generalize m.exec p = done at h hleft ⊢
  generalize m'.exec p' = done' at h hright ⊢
  obtain ⟨e | a, q⟩ := done <;> obtain ⟨e' | a', q'⟩ := done'
  · exact h
  · exact h
  · exact h
  · exact ⟨h, hleft, hright⟩

/-- Two runs that cannot fail go side by side. -/
theorem Post₂.of_posts {P P' : α → Progress → Prop} (hleft : m.Post p P fun _ _ => False)
    (hright : m'.Post p' P' fun _ _ => False) :
    m.Post₂ m' p p' (fun a a' q q' => P a q ∧ P' a' q') E := by
  rw [Post] at hleft hright
  rw [Post₂]
  generalize m.exec p = done at hleft ⊢
  generalize m'.exec p' = done' at hright ⊢
  obtain ⟨e | a, q⟩ := done <;> obtain ⟨e' | a', q'⟩ := done'
  · exact hleft.elim
  · exact hleft.elim
  · exact hright.elim
  · exact ⟨hleft, hright⟩

end BuildM

/-! ## Ways to fail -/

/-- The types that no schema can describe: they have no element type, and they are of kind `never`,
a type parameter, or an object with the name of the integers that is no date. -/
inductive TypeGraph.Unsupported (graph : TypeGraph) (id : TypeId) : Prop
  | never {node : TypeNode} (hnode : graph.lookupType id = .ok node)
      (hindex : node.numberIndex = none) (hkind : node.kind = .never) : Unsupported graph id
  | typeParameter {node : TypeNode} (hnode : graph.lookupType id = .ok node)
      (hindex : node.numberIndex = none) (hkind : node.kind = .typeParameter) : Unsupported graph id
  | integer {node : TypeNode} {properties : List Property} {anonymous : Bool}
      {index : Option TypeId} {symbolId : SymbolId} {symbol : Symbol}
      (hnode : graph.lookupType id = .ok node) (hindex : node.numberIndex = none)
      (hkind : node.kind = .object properties anonymous index)
      (hsymbol : node.symbol = some symbolId) (hlookup : graph.lookupSymbol symbolId = .ok symbol)
      (hname : symbol.name = "integer") (hdate : symbol.fullName ≠ "Date") : Unsupported graph id

/-- How a construction can fail in a catalog that is whole: at a type that no schema can describe,
at a type without end, and at a tag that asks for a module. -/
inductive Catalog.Raises (catalog : Catalog) : Error → Prop
  | unsupported {id : TypeId} {text : String} (htype : catalog.graph.Unsupported id)
      (htext : catalog.graph.typeText id = .ok text) : Raises catalog (.unsupportedType text id)
  | endless (id : TypeId) : Raises catalog (.endlessType id)
  | require {symbol : Symbol} {tag : DocTag} {require : Require} (fault : RequireFault)
      (hsymbol : symbol ∈ catalog.graph.symbols.toList) (htag : tag ∈ symbol.tags)
      (hrequire : catalog.reader.Requires tag require) :
      Raises catalog (.require require.specifier fault)

/-! ## Accords -/

/-- A relation between progresses that no rule can tell apart. -/
structure Accord where
  rel : Progress → Progress → Prop
  note : ∀ {p q}, rel p q → ∀ entry, rel (p.note entry) (q.note entry)
  listed : ∀ {p q}, rel p q → ∀ listing listing',
    rel (p.act (.listed listing)) (q.act (.listed listing'))

/-- An accord of progresses that have the same names, so that the same ones are handed out. -/
structure NamingAccord extends Accord where
  names : ∀ {p q}, rel p q → q.context.names = p.context.names
  named : ∀ {p q}, rel p q → ∀ id base,
    rel (p.withContext { p.context with names := (p.context.names.makeUnique id base).2 })
      (q.withContext { q.context with names := (q.context.names.makeUnique id base).2 })

/-- Runs whose contexts are the same, where the rules keep a property of the progress along the
first. -/
def NamingAccord.along (P : Progress → Prop) (note : ∀ {p}, P p → ∀ entry, P (p.note entry))
    (named : ∀ {p}, P p → ∀ id base,
      P (p.withContext { p.context with names := (p.context.names.makeUnique id base).2 }))
    (listed : ∀ {p}, P p → ∀ listing, P (p.act (.listed listing))) : NamingAccord where
  rel p q := q.context = p.context ∧ P p
  note h entry := ⟨h.1, note h.2 entry⟩
  listed h listing _ := ⟨h.1, listed h.2 listing⟩
  names h := by rw [h.1]
  named h id base := ⟨by simp only [Progress.withContext, h.1], named h.2 id base⟩

namespace Accord

variable {catalog : Catalog} {A : Accord} {α β : Type} {m m' : BuildM α} {R : α → α → Prop}
  {S : β → β → Prop}

/-- From related progresses the two constructions answer alike and leave related progresses, or they
fail with one error, which is one that can be raised. -/
def Agree (A : Accord) (catalog : Catalog) (m m' : BuildM α) (R : α → α → Prop) : Prop :=
  ∀ p q, A.rel p q → m.Post₂ m' p q (fun a a' p' q' => A.rel p' q' ∧ R a a') catalog.Raises

theorem Agree.imp (h : A.Agree catalog m m' R) {R' : α → α → Prop}
    (himp : ∀ a a', R a a' → R' a a') : A.Agree catalog m m' R' :=
  fun p q hpq => (h p q hpq).imp fun a a' _ _ ⟨hrel, ha⟩ => ⟨hrel, himp a a' ha⟩

theorem Agree.pure {a a' : α} (h : R a a') : A.Agree catalog (pure a) (pure a') R :=
  fun _ _ hpq => (BuildM.post₂_pure a a').2 ⟨hpq, h⟩

theorem Agree.throw {error : Error} (h : catalog.Raises error) :
    A.Agree catalog (throw error : BuildM α) (throw error) R :=
  fun _ _ _ => (BuildM.post₂_throw error error).2 ⟨rfl, h⟩

theorem Agree.bind {f f' : α → BuildM β} (hm : A.Agree catalog m m' R)
    (hf : ∀ a a', R a a' → A.Agree catalog (f a) (f' a') S) :
    A.Agree catalog (m >>= f) (m' >>= f') S :=
  fun p q hpq => (hm p q hpq).bind fun a a' p' q' ⟨hrel, ha⟩ => hf a a' ha p' q' hrel

theorem Agree.map {f f' : α → β} (hm : A.Agree catalog m m' R)
    (hf : ∀ a a', R a a' → S (f a) (f' a')) :
    A.Agree catalog (do return f (← m)) (do return f' (← m')) S :=
  hm.bind fun a a' ha => .pure (hf a a' ha)

/-- What both find is the same. -/
theorem Agree.find {found : Except Missing α} {f f' : α → BuildM β} (h : Found found)
    (hf : ∀ a, found = .ok a → A.Agree catalog (f a) (f' a) S) :
    A.Agree catalog (BuildM.find found >>= f) (BuildM.find found >>= f') S := by
  obtain ⟨a, rfl⟩ := h
  exact hf a rfl

theorem Agree.take {result : Except Error α} {f f' : α → BuildM β}
    (hfault : ∀ e, result = .error e → catalog.Raises e)
    (hf : ∀ a, result = .ok a → A.Agree catalog (f a) (f' a) S) :
    A.Agree catalog (BuildM.take result >>= f) (BuildM.take result >>= f') S := by
  cases hresult : result with
  | ok a => exact hf a hresult
  | error e => exact fun _ _ _ => ⟨rfl, hfault e hresult⟩

theorem agree_note (entry : LogEntry) :
    A.Agree catalog (BuildM.note entry) (BuildM.note entry) fun _ _ => True :=
  fun _ _ hpq => ⟨A.note hpq entry, trivial⟩

/-! ## Loops -/

/-- A loop whose steps answer alike answers alike, and each answer is as stated of what it is the
answer to. -/
theorem Agree.each {f f' : α → BuildM β} {P : α → β → Prop} (l : List α)
    (h : ∀ a ∈ l, A.Agree catalog (f a) (f' a) fun b b' => b = b' ∧ P a b) :
    A.Agree catalog (l.mapM f) (l.mapM f') fun bs bs' => bs = bs' ∧ List.Forall₂ P l bs := by
  induction l with
  | nil =>
    rw [List.mapM_nil, List.mapM_nil]
    exact .pure ⟨rfl, .nil⟩
  | cons a rest ih =>
    rw [List.mapM_cons, List.mapM_cons]
    refine (h a List.mem_cons_self).bind ?_
    rintro b _ ⟨rfl, hb⟩
    refine (ih fun c hc => h c (List.mem_cons_of_mem _ hc)).map ?_
    rintro bs _ ⟨rfl, hbs⟩
    exact ⟨rfl, .cons hb hbs⟩

theorem Agree.foldlM {f f' : β → α → BuildM β} (l : List α) {b b' : β} (start : S b b')
    (h : ∀ a ∈ l, ∀ done done', S done done' → A.Agree catalog (f done a) (f' done' a) S) :
    A.Agree catalog (l.foldlM f b) (l.foldlM f' b') S := by
  induction l generalizing b b' with
  | nil => exact .pure start
  | cons a rest ih =>
    rw [List.foldlM_cons, List.foldlM_cons]
    refine (h a List.mem_cons_self b b' start).bind fun done done' hdone => ?_
    exact ih hdone fun c hc => h c (List.mem_cons_of_mem _ hc)

theorem Agree.forM {f f' : α → BuildM PUnit} (l : List α)
    (h : ∀ a ∈ l, A.Agree catalog (f a) (f' a) fun _ _ => True) :
    A.Agree catalog (l.forM f) (l.forM f') fun _ _ => True := by
  induction l with
  | nil => exact .pure trivial
  | cons a rest ih =>
    refine (h a List.mem_cons_self).bind fun _ _ _ => ?_
    exact ih fun c hc => h c (List.mem_cons_of_mem _ hc)

theorem Agree.anyM {f f' : α → BuildM Bool} (l : List α)
    (h : ∀ a ∈ l, A.Agree catalog (f a) (f' a) Eq) :
    A.Agree catalog (l.anyM f) (l.anyM f') Eq := by
  induction l with
  | nil => exact .pure rfl
  | cons a rest ih =>
    rw [List.anyM_cons, List.anyM_cons]
    refine (h a List.mem_cons_self).bind ?_
    rintro found _ rfl
    cases found with
    | true => exact .pure rfl
    | false => exact ih fun c hc => h c (List.mem_cons_of_mem _ hc)

/-- A filter whose test answers as a predicate does keeps what the predicate keeps. -/
theorem Agree.filterM {f f' : α → BuildM Bool} (keep : α → Bool) (l : List α)
    (h : ∀ a ∈ l, A.Agree catalog (f a) (f' a) fun b b' => b = keep a ∧ b' = keep a) :
    A.Agree catalog (l.filterM f) (l.filterM f') fun as as' =>
      as = l.filter keep ∧ as' = l.filter keep := by
  suffices hall : ∀ (l kept : List α),
      (∀ a ∈ l, A.Agree catalog (f a) (f' a) fun b b' => b = keep a ∧ b' = keep a) →
      A.Agree catalog (l.filterAuxM f kept) (l.filterAuxM f' kept) fun as as' =>
        as = (l.filter keep).reverse ++ kept ∧ as' = (l.filter keep).reverse ++ kept by
    refine (hall l [] h).map fun as as' has => ?_
    obtain ⟨rfl, rfl⟩ := has
    simp
  intro l
  induction l with
  | nil => exact fun kept _ => .pure ⟨rfl, rfl⟩
  | cons a rest ih =>
    intro kept hstep
    refine (hstep a List.mem_cons_self).bind fun b b' hb => ?_
    obtain ⟨rfl, rfl⟩ := hb
    have hrest := fun c hc => hstep c (List.mem_cons_of_mem a hc)
    cases hkeep : keep a with
    | true => exact (ih (a :: kept) hrest).imp fun as as' has => by simpa [hkeep] using has
    | false => exact (ih kept hrest).imp fun as as' has => by simpa [hkeep] using has

end Accord

end TypeSchema
