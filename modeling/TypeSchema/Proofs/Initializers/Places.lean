import TypeSchema.Proofs.Initializers.Scanner

/-!
# Places and cursors

A cursor in a source text stands for one place of a scan, since what remains settles how many characters
are passed (`Place.before`).  There the scanner finds what the cursor holds: the next character, its byte
offset, and the text from there on (`getElem?_charIndices`, `sliceFrom_of_within`).

`Agrees` is what a scan and a reader are compared by.  From the place of a cursor the scan ends with the
value of the reader, at the place where the reader ends, or with the fault of the reader; so it does not
trap and is not left unfinished.  And if the fault names a character, this is the one that starts at the
offset.  Scans in sequence agree with readers in sequence (`Agrees.bind`), so that agreement is shown for
one scanner after another.
-/

set_option autoImplicit false

namespace TypeSchema.Literal

open Text

/-! ## Where a character starts -/

/-- The character starts at the byte offset, which is a boundary inside of the source. -/
def StartsAt (source : String) (x : Char) (offset : Nat) : Prop :=
  ∃ (start : source.Pos) (h : start ≠ source.endPos), start.offset = ⟨offset⟩ ∧ start.get h = x

/-- If the fault names a character, this starts at the offset. -/
def ReadFault.IsLocated (source : String) : ReadFault → Prop
  | .unexpected found offset => StartsAt source found offset
  | .unexpectedEnd | .notLiteral _ | .number _ => True

theorem utf8ByteSize_ofList (cs : List Char) : (String.ofList cs).utf8ByteSize = utf8Length cs := by
  induction cs with
  | nil => rfl
  | cons x cs ih =>
    rw [String.ofList_cons, String.utf8ByteSize_append, String.utf8ByteSize_singleton, ih,
      utf8Length_cons]

/-! ## Cursors in a source text -/

/-- The cursor stands in the source. -/
def Cursor.Within (c : Cursor) (source : String) : Prop :=
  ∃ passed, (Cursor.start source).Moves passed c

/-- The place before what remains. -/
def Place.before (source : String) (asserted : Bool) (rest : List Char) : Place :=
  ⟨source.toList.length - rest.length, asserted⟩

variable {source : String} {c d : Cursor} {x : Char} {text : List Char}

namespace Cursor

/-- The text ends at a cursor, or a character is next. -/
theorem nil_or_moves (c : Cursor) : c.rest = [] ∨ ∃ x d, c.Moves [x] d := by
  obtain ⟨offset, _ | ⟨x, rest⟩⟩ := c
  · exact .inl rfl
  · exact .inr ⟨x, _, moves_cons offset x rest⟩

theorem peek?_of_nil (h : c.rest = []) : c.peek? = none := by
  rw [peek?, h]
  rfl

theorem fault_of_nil (h : c.rest = []) : c.fault = .unexpectedEnd := by
  rw [fault, h]

theorem fault_of_moves (h : c.Moves [x] d) : c.fault = .unexpected x c.offset := by
  rw [fault, h.rest]
  rfl

theorem Moves.length_rest (h : c.Moves text d) : c.rest.length = text.length + d.rest.length := by
  rw [h.rest, List.length_append]

theorem Moves.length_rest_le (h : c.Moves text d) : d.rest.length ≤ c.rest.length := by
  rw [h.length_rest]
  exact Nat.le_add_left ..

theorem Moves.length_lt (h : c.Moves [x] d) : d.rest.length < c.rest.length := by
  rw [h.length_rest, List.length_singleton]
  exact Nat.lt_add_of_pos_left Nat.one_pos

/-- Behind a character one step less is enough. -/
theorem Moves.length_lt_of_succ {steps : Nat} (h : c.Moves [x] d)
    (hsteps : c.rest.length < steps + 1) : d.rest.length < steps :=
  Nat.lt_of_lt_of_le h.length_lt (Nat.le_of_lt_succ hsteps)

theorem length_skipBlanks_le (c : Cursor) : c.skipBlanks.rest.length ≤ c.rest.length :=
  (moves_skipWhile c isBlank).length_rest_le

theorem skipWhile_of_nil {p : Char → Bool} (h : c.rest = []) : c.skipWhile p = c :=
  skipWhile_eq_self (h ▸ halts_nil)

theorem skipWhile_of_pos {p : Char → Bool} (h : c.Moves [x] d) (hx : p x = true) :
    c.skipWhile p = d.skipWhile p := by
  refine skipWhile_of_moves (h.cons (moves_skipWhile d p)) ?_ (halts_skipWhile d p)
  exact List.forall_mem_cons.2 ⟨hx, List.all_eq_true.1 List.all_takeWhile⟩

theorem skipWhile_of_neg {p : Char → Bool} (h : c.Moves [x] d) (hx : p x = false) :
    c.skipWhile p = c := by
  refine skipWhile_eq_self ?_
  rw [h.rest]
  exact halts_cons.2 hx

theorem within_start (source : String) : (start source).Within source :=
  ⟨[], moves_nil _⟩

theorem Moves.within (h : c.Moves text d) (hc : c.Within source) : d.Within source := by
  obtain ⟨passed, hpassed⟩ := hc
  exact ⟨passed ++ text, hpassed.trans h⟩

theorem Within.skipBlanks (h : c.Within source) : c.skipBlanks.Within source :=
  (moves_skipWhile c isBlank).within h

theorem Within.length_le (h : c.Within source) : c.rest.length ≤ source.toList.length := by
  obtain ⟨passed, hpassed⟩ := h
  have hlength : source.toList.length = passed.length + c.rest.length := hpassed.length_rest
  omega

/-- A cursor splits its source at a boundary between characters, which its offset is. -/
theorem Within.exists_splits (h : c.Within source) :
    ∃ (passed : String) (start : source.Pos), start.Splits passed (String.ofList c.rest) ∧
      start.offset = ⟨c.offset⟩ := by
  obtain ⟨passed, hrest, hoffset⟩ := h
  have hsource : source = String.ofList passed ++ String.ofList c.rest := by
    rw [← String.ofList_append, ← hrest]
    exact String.ofList_toList.symm
  have hsplits := String.Pos.splits_ofEqAppend hsource
  refine ⟨_, _, hsplits, ?_⟩
  rw [hsplits.offset_eq_rawEndPos, hoffset]
  show String.Pos.Raw.mk (String.ofList passed).utf8ByteSize = ⟨0 + utf8Length passed⟩
  rw [utf8ByteSize_ofList, Nat.zero_add]

/-- The next character starts at the cursor's offset. -/
theorem Within.startsAt (h : c.Within source) (hmoves : c.Moves [x] d) :
    StartsAt source x c.offset := by
  obtain ⟨passed, start, hsplits, hoffset⟩ := h.exists_splits
  rw [hmoves.rest, List.singleton_append, String.ofList_cons] at hsplits
  exact ⟨start, hsplits.ne_endPos_of_singleton, hoffset, hsplits.next.get_eq_of_singleton⟩

end Cursor

/-! ## What a scanner finds at a cursor -/

namespace Scanner

theorem length_indicesFrom (offset : Nat) (cs : List Char) :
    (indicesFrom offset cs).length = cs.length := by
  induction cs generalizing offset with
  | nil => rfl
  | cons x cs ih => rw [indicesFrom, List.length_cons, ih, List.length_cons]

theorem indicesFrom_append (offset : Nat) (cs more : List Char) :
    indicesFrom offset (cs ++ more) =
      indicesFrom offset cs ++ indicesFrom (offset + utf8Length cs) more := by
  induction cs generalizing offset with
  | nil => rfl
  | cons x cs ih =>
    rw [List.cons_append, indicesFrom, ih, indicesFrom, List.cons_append, utf8Length_cons,
      Nat.add_assoc]

/-- Among the characters, the one at the place is the next one, with the offset of the cursor. -/
theorem getElem?_charIndices (h : c.Within source) (asserted : Bool) :
    (charIndices source)[(Place.before source asserted c.rest).position]? =
      c.rest.head?.map fun x => (c.offset, x) := by
  obtain ⟨passed, hrest, hoffset⟩ := h
  have hsource : source.toList = passed ++ c.rest := hrest
  have hstart : c.offset = 0 + utf8Length passed := hoffset
  have hposition : (Place.before source asserted c.rest).position =
      (indicesFrom 0 passed).length := by
    rw [Place.before, length_indicesFrom, hsource, List.length_append, Nat.add_sub_cancel]
  rw [charIndices, hsource, indicesFrom_append, hposition, List.getElem?_append_right (le_refl _),
    Nat.sub_self, ← hstart]
  cases c.rest <;> rfl

theorem peek_of_within (h : c.Within source) (asserted : Bool) :
    (peek source).run (.before source asserted c.rest) =
      .ok (c.peek?, .before source asserted c.rest) := by
  have hfound : (peek source).run (.before source asserted c.rest) =
      .ok ((charIndices source)[(Place.before source asserted c.rest).position]?.map Prod.snd,
        .before source asserted c.rest) := rfl
  rw [hfound, getElem?_charIndices h, Option.map_map, Cursor.peek?]
  cases c.rest <;> rfl

theorem offset_of_within (h : c.Within source) (asserted : Bool) :
    (offset source).run (.before source asserted c.rest) =
      .ok (c.offset, .before source asserted c.rest) := by
  have hfound : (offset source).run (.before source asserted c.rest) =
      .ok (((charIndices source)[(Place.before source asserted c.rest).position]?.map
        Prod.fst).getD source.utf8ByteSize, .before source asserted c.rest) := rfl
  rw [hfound, getElem?_charIndices h]
  cases hrest : c.rest with
  | cons x rest => rfl
  | nil =>
    -- at the end of the text the offset is the size of the source
    obtain ⟨passed, start, hsplits, hoffset⟩ := h.exists_splits
    rw [hrest, String.ofList_nil, String.Pos.splits_empty_right_iff] at hsplits
    rw [hsplits.1] at hoffset
    have hsize : source.utf8ByteSize = c.offset := congrArg String.Pos.Raw.byteIdx hoffset
    rw [List.head?_nil, Option.map_none, Option.map_none, Option.getD_none, hsize]

theorem advance_of_moves (h : c.Within source) (hmoves : c.Moves [x] d) (asserted : Bool) :
    advance.run (.before source asserted c.rest) = .ok ((), .before source asserted d.rest) := by
  have hle := h.length_le
  have hrest : c.rest.length = 1 + d.rest.length := hmoves.length_rest
  have hposition : source.toList.length - c.rest.length + 1 =
      source.toList.length - d.rest.length := by omega
  show Except.ok ((), Place.mk (source.toList.length - c.rest.length + 1) asserted) = _
  rw [hposition]
  rfl

/-- A slice from the offset of a cursor is what remains there. -/
theorem sliceFrom_of_within (h : c.Within source) (place : Place) :
    ∃ ahead : String.Slice, ahead.copy.toList = c.rest ∧
      (sliceFrom source c.offset).run place = .ok (ahead, place) := by
  obtain ⟨passed, start, hsplits, hoffset⟩ := h.exists_splits
  have hvalid : String.Pos.Raw.isValidForSlice source.toSlice start.offset = true := by
    simp [start.isValid]
  refine ⟨source.sliceFrom start, by rw [hsplits.copy_sliceFrom_eq, String.toList_ofList], ?_⟩
  rw [sliceFrom, ← hoffset, String.pos?, String.Slice.pos?, dif_pos hvalid]
  rfl

end Scanner

/-! ## Agreement -/

variable {α β γ δ : Type} {scan : Scan α} {place further : Place} {f : α → Scan γ}
  {view : β → α × Place} {sight : δ → γ × Place} {result : Except ReadFault β}

theorem Scan.run_bind_of_ok {found : α} (h : scan.run place = .ok (found, further)) :
    (scan >>= f).run place = (f found).run further := by
  rw [StateT.run_bind, h]
  rfl

theorem Scan.run_bind_of_error {stop : Stop} (h : scan.run place = .error stop) :
    (scan >>= f).run place = .error stop := by
  rw [StateT.run_bind, h]
  rfl

/-- The scan ends with what the reader reads, which is seen as the value and place of the scan, or with
the fault of the reader; and a fault is located. -/
structure Agrees (source : String) (scan : Scan α) (place : Place) (view : β → α × Place)
    (result : Except ReadFault β) : Prop where
  run : scan.run place = (result.map view).mapError .fault
  located : ∀ fault, result = .error fault → fault.IsLocated source

theorem agrees_ok {found : β} (h : scan.run place = .ok (view found)) :
    Agrees source scan place view (.ok found) :=
  ⟨h, nofun⟩

theorem agrees_pure {value : α} {found : β} (h : view found = (value, place)) :
    Agrees source (pure value) place view (.ok found) :=
  agrees_ok (by rw [h]; rfl)

theorem agrees_fail {fault : ReadFault} (h : fault.IsLocated source) :
    Agrees source (Scanner.fail fault) place view (.error fault) :=
  ⟨rfl, fun _ hfault => Except.error.inj hfault ▸ h⟩

/-- Behind a scan that is known to end, the rest is to agree from where it ends. -/
theorem agrees_bind_of_ok {value : α} {found : Except ReadFault δ}
    (h : scan.run place = .ok (value, further)) (hf : Agrees source (f value) further sight found) :
    Agrees source (scan >>= f) place sight found :=
  ⟨(Scan.run_bind_of_ok h).trans hf.run, hf.located⟩

/-- Scans in sequence agree with readers in sequence. -/
theorem Agrees.bind {g : β → Except ReadFault δ} (h : Agrees source scan place view result)
    (hf : ∀ found, result = .ok found →
      Agrees source (f (view found).1) (view found).2 sight (g found)) :
    Agrees source (scan >>= f) place sight (result >>= g) := by
  cases result with
  | ok found => exact agrees_bind_of_ok h.run (hf found rfl)
  | error fault =>
    refine ⟨Scan.run_bind_of_error h.run, fun other hfault => h.located other ?_⟩
    exact congrArg Except.error (Except.error.inj hfault)

/-- What is scanned may be made something else of. -/
theorem Agrees.pure (h : Agrees source scan place view result) (g : α → γ) :
    Agrees source (scan >>= fun value => Pure.pure (g value)) place
      (fun found => (g (view found).1, (view found).2)) result := by
  cases result with
  | ok found => exact agrees_bind_of_ok h.run (agrees_pure rfl)
  | error fault => exact ⟨Scan.run_bind_of_error h.run, h.located⟩

/-- What is read may be made something else of that is seen alike. -/
theorem Agrees.map {sight : δ → α × Place} {g : β → δ} (h : Agrees source scan place view result)
    (hview : ∀ found, sight (g found) = view found) :
    Agrees source scan place sight (result >>= fun found => .ok (g found)) := by
  cases result with
  | ok found => exact agrees_ok (h.run.trans (congrArg Except.ok (hview found).symm))
  | error fault =>
    refine ⟨h.run, fun other hfault => h.located other ?_⟩
    exact congrArg Except.error (Except.error.inj hfault)

end TypeSchema.Literal
