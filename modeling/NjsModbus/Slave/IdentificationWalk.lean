import NjsModbus.Slave.DeviceIdentification

/-!
# What FC43/14's object walk keeps

Properties of `ModbusSlave.handleFC43_14`'s walk over the objects map, each from one inversion
lemma for a single object (`walkIdentification_cons_ok`) and a run lemma by induction over the
objects.

* The objects map lists its ids in ascending order (`seedObjects_ascending`).
* Each object entry of a response has a length byte that counts the value's UTF-16 code units,
  and the value's UTF-8 bytes after it; the walk keeps its budget in code units, so the PDU
  stays within `253` bytes only where the two agree, for ASCII values
  (`identificationResponse_entries`).
* A start object other than `0` whose value has `242` to `245` code units passes the size check
  but never fits the budget, and the response names it as the next object without listing it
  (`identificationResponse_stalls`).
* The conformity level is accumulated inside the walk, so an individual access sees only the
  ids up to the object it answers with (`identification_conformityLevel`).
-/

namespace NjsModbus

/-! ## Maps and strings -/

/-- An entry of a map after `map.set` was there before or is the one set. -/
theorem mem_mapSet {β : Type} {m : List (Nat × β)} {key : Nat} {value : β} {e : Nat × β}
    (h : e ∈ mapSet m key value) : e ∈ m ∨ e = (key, value) := by
  unfold mapSet at h
  split at h
  · obtain ⟨e', he', rfl⟩ := List.mem_map.1 h
    split
    · exact .inr rfl
    · exact .inl he'
  · simpa using h

/-- In a map with distinct keys, the key of an entry finds that entry's value. -/
theorem lookup_of_mem {β : Type} {l : List (Nat × β)} (hnd : (l.map (·.1)).Nodup) {k : Nat} {v : β}
    (h : (k, v) ∈ l) : l.lookup k = some v := by
  induction l with
  | nil => cases h
  | cons p l ih =>
    obtain ⟨k', v'⟩ := p
    simp only [List.map_cons, List.nodup_cons, List.mem_map] at hnd
    rcases List.mem_cons.1 h with heq | hmem
    · cases heq; simp
    · have hne : (k == k') = false := by simpa using fun hk => hnd.1 ⟨(k, v), hmem, hk⟩
      simp only [List.lookup_cons, hne]
      exact ih hnd.2 hmem

/-- A character takes no more UTF-16 code units than UTF-8 bytes, and as many exactly when it is
ASCII. -/
theorem utf16Units_le (c : Char) :
    utf16Units c ≤ (utf8Encode c).length ∧ (utf16Units c = (utf8Encode c).length ↔ c.toNat < 0x80) := by
  simp only [utf16Units, utf8Encode]
  split_ifs <;> simp <;> omega

/-- A string's length counts no more than its UTF-8 bytes, and as many exactly when it is
ASCII. -/
theorem utf16Length_le (value : String) :
    utf16Length value ≤ (utf8Bytes value).length ∧
      (utf16Length value = (utf8Bytes value).length ↔ ∀ c ∈ value.data, c.toNat < 0x80) := by
  obtain ⟨cs⟩ := value
  simp only [utf16Length, utf8Bytes]
  induction cs with
  | nil => simp
  | cons c cs ih =>
    obtain ⟨hle, hiff⟩ := utf16Units_le c
    simp only [List.map_cons, List.sum_cons, List.flatMap_cons, List.length_append, List.mem_cons,
      forall_eq_or_imp]
    refine ⟨by omega, ?_⟩
    rw [← hiff, ← ih.2]
    omega

namespace ModbusSlave

variable (encode : ApplicationDataUnit → Option (List Nat))

/-! ## The objects map -/

/-- The objects the handler seeds before it reads the model's identification. -/
theorem seedObjects_eq (identification : Identification) :
    seedObjects identification = identification.entries.foldl
      (fun objects e => if e.1 ≤ 255 then mapSet objects e.1 e.2 else objects)
      [(0x00, "null"), (0x01, "null"), (0x02, "null")] := rfl

/-- Every object of the map is a seeded one or an entry of the identification, with an id up to
`255`. -/
theorem mem_seedObjects {identification : Identification} {e : Nat × String}
    (h : e ∈ seedObjects identification) :
    e.1 ≤ 255 ∧ (e ∈ [(0x00, "null"), (0x01, "null"), (0x02, "null")] ∨ e ∈ identification.entries) := by
  rw [seedObjects_eq] at h
  suffices ∀ (entries : List (Nat × String)) (objects : List (Nat × String)),
      e ∈ entries.foldl (fun objects e => if e.1 ≤ 255 then mapSet objects e.1 e.2 else objects) objects →
      e ∈ objects ∨ e.1 ≤ 255 ∧ e ∈ entries by
    rcases this _ _ h with h | h
    · refine ⟨?_, .inl h⟩
      simp only [List.mem_cons, List.not_mem_nil, or_false] at h
      rcases h with rfl | rfl | rfl <;> decide
    · exact ⟨h.1, .inr h.2⟩
  intro entries
  induction entries with
  | nil => exact fun _ h => .inl h
  | cons x rest ih =>
    intro objects h
    rcases ih _ h with h | h
    · dsimp only at h
      split at h
      · rcases mem_mapSet h with h | rfl
        · exact .inl h
        · exact .inr ⟨‹_›, List.mem_cons_self _ _⟩
      · exact .inl h
    · exact .inr ⟨h.1, List.mem_cons_of_mem _ h.2⟩

/-- The keys after one entry of the identification: the same, or the entry's id appended. -/
theorem keys_seedStep (objects : List (Nat × String)) (x : Nat × String) :
    ((if x.1 ≤ 255 then mapSet objects x.1 x.2 else objects).map (·.1)) = objects.map (·.1) ∨
      x.1 ∉ objects.map (·.1) ∧ (if x.1 ≤ 255 then mapSet objects x.1 x.2 else objects).map (·.1) =
        objects.map (·.1) ++ [x.1] := by
  split
  · rw [keys_mapSet]
    split
    · exact .inl rfl
    · rename_i hany
      refine .inr ⟨fun hmem => hany ?_, rfl⟩
      obtain ⟨e, he, hk⟩ := List.mem_map.1 hmem
      exact List.any_eq_true.2 ⟨e, he, by simp [hk]⟩
  · exact .inl rfl

/-- The ids of the objects map ascend: the seeds `0x00`–`0x02` come first, an identification id
among them keeps its place, and the others, ascending in the identification, are appended. -/
theorem seedObjects_ascending (identification : Identification) :
    ((seedObjects identification).map (·.1)).Pairwise (· < ·) := by
  rw [seedObjects_eq]
  suffices ∀ (entries objects : List (Nat × String)), entries.Pairwise (·.1 < ·.1) →
      (objects.map (·.1)).Pairwise (· < ·) → (∀ k ≤ 2, k ∈ objects.map (·.1)) →
      (∀ key ∈ objects.map (·.1), key ≤ 2 ∨ ∀ e ∈ entries, key < e.1) →
      ((entries.foldl (fun objects e => if e.1 ≤ 255 then mapSet objects e.1 e.2 else objects)
        objects).map (·.1)).Pairwise (· < ·) from
    this _ _ identification.ascending (by decide) (by decide) (by simp)
  intro entries
  induction entries with
  | nil => exact fun _ _ h _ _ => h
  | cons x rest ih =>
    intro objects hasc hsorted hseed hbound
    obtain ⟨hx, hrest⟩ := List.pairwise_cons.1 hasc
    have hbound' : ∀ key ∈ objects.map (·.1), key ≤ 2 ∨ ∀ e ∈ rest, key < e.1 := fun key hk =>
      (hbound key hk).imp_right fun h e he => h e (List.mem_cons_of_mem _ he)
    rcases keys_seedStep objects x with hkeys | ⟨hnew, hkeys⟩ <;> apply ih _ hrest <;> rw [hkeys]
    · exact hsorted
    · exact hseed
    · exact hbound'
    · have hbig : 2 < x.1 := Nat.lt_of_not_le fun hle => hnew (hseed _ hle)
      refine List.pairwise_append.2 ⟨hsorted, List.pairwise_singleton _ _, fun a ha b hb => ?_⟩
      rw [List.mem_singleton.1 hb]
      rcases hbound a ha with h | h
      · omega
      · exact h x (List.mem_cons_self _ _)
    · exact fun k hk => List.mem_append_left _ (hseed k hk)
    · intro key hk
      rcases List.mem_append.1 hk with hk | hk
      · exact hbound' key hk
      · rw [List.mem_singleton.1 hk]
        exact .inr hx

/-- So the objects map has distinct ids. -/
theorem nodup_keys_seedObjects (identification : Identification) :
    ((seedObjects identification).map (·.1)).Nodup :=
  (seedObjects_ascending identification).imp Nat.ne_of_lt

/-! ## One object of the walk -/

/-- The conformity level after an object: `0x82` past the basic objects, `0x83` past `0x80`. -/
def conformityStep (level id : Nat) : Nat :=
  if id > 0x80 then 0x83 else if id > 0x02 then 0x82 else level

/-- The accumulators after the walk has looked at an object's id. -/
def ObjectWalk.visit (w : ObjectWalk) (id : Nat) : ObjectWalk :=
  { w with conformityLevel := conformityStep w.conformityLevel id }

/-- The accumulators with one more object packed. -/
def ObjectWalk.pack (w : ObjectWalk) (id length : Nat) : ObjectWalk :=
  { w with totalLength := w.totalLength + length + 2, ids := w.ids ++ [id] }

/-- One object of the walk, with the accumulators it changes named. -/
theorem walkIdentification_cons (code start id : Nat) (value : String) (rest : List (Nat × String))
    (w : ObjectWalk) :
    walkIdentification code start ((id, value) :: rest) w =
      if id < 0x00 ∨ (id ≥ 0x07 ∧ id ≤ 0x7f) ∨ id > 0xff then .error .SERVER_DEVICE_FAILURE
      else if start > id then walkIdentification code start rest (w.visit id)
      else if utf16Length value > 245 then .error .SERVER_DEVICE_FAILURE
      else if w.lastID ≠ 0 then walkIdentification code start rest (w.visit id)
      else if utf16Length value + 2 > 253 - w.totalLength then
        walkIdentification code start rest { w.visit id with lastID := id }
      else if code = 0x04 then .ok ((w.visit id).pack id (utf16Length value))
      else walkIdentification code start rest ((w.visit id).pack id (utf16Length value)) :=
  rfl

/-- Everything one object can do to a walk that goes on to a normal end: its id is a valid one,
and the walk goes on from the object skipped, from it left out as the continuation point, or
from it packed; an individual access stops right after the object it packs. -/
theorem walkIdentification_cons_ok {code start id : Nat} {value : String} {rest : List (Nat × String)}
    {w w' : ObjectWalk} (h : walkIdentification code start ((id, value) :: rest) w = .ok w') :
    ¬(0x07 ≤ id ∧ id ≤ 0x7f) ∧ id ≤ 0xff ∧
    (walkIdentification code start rest (w.visit id) = .ok w' ∨
     start ≤ id ∧ utf16Length value ≤ 245 ∧ w.lastID = 0 ∧ 253 - w.totalLength < utf16Length value + 2 ∧
      walkIdentification code start rest { w.visit id with lastID := id } = .ok w' ∨
     start ≤ id ∧ utf16Length value ≤ 245 ∧ w.lastID = 0 ∧ utf16Length value + 2 ≤ 253 - w.totalLength ∧
      (code = 0x04 ∧ w' = (w.visit id).pack id (utf16Length value) ∨
       code ≠ 0x04 ∧ walkIdentification code start rest ((w.visit id).pack id (utf16Length value)) = .ok w')) := by
  rw [walkIdentification_cons] at h
  split at h
  · cases h
  rename_i hid
  refine ⟨fun h' => hid (.inr (.inl h')), by omega, ?_⟩
  split at h
  · exact .inl h
  split at h
  · cases h
  split at h
  · exact .inl h
  split at h
  · exact .inr (.inl ⟨by omega, by omega, by omega, by omega, h⟩)
  split at h
  · cases h
    exact .inr (.inr ⟨by omega, by omega, by omega, by omega, .inl ⟨‹_›, rfl⟩⟩)
  · exact .inr (.inr ⟨by omega, by omega, by omega, by omega, .inr ⟨‹_›, h⟩⟩)

/-! ## The length budget -/

/-- The code units the packed objects take in the response, each with its id and length byte. -/
def packedUnits (objects : List (Nat × String)) (ids : List Nat) : Nat :=
  (ids.map fun id => utf16Length ((objects.lookup id).getD "") + 2).sum

/-- The walk's budget: `totalLength` is `10` and the code units of the packed objects, and it
stays within `253`. -/
def BudgetKept (objects : List (Nat × String)) (w : ObjectWalk) : Prop :=
  w.totalLength = 10 + packedUnits objects w.ids ∧ w.totalLength ≤ 253

/-- Every object keeps the budget. -/
theorem walkIdentification_budget {code start : Nat} {objects : List (Nat × String)}
    (hnd : (objects.map (·.1)).Nodup) :
    ∀ {rest : List (Nat × String)} {w w' : ObjectWalk}, (∀ e ∈ rest, e ∈ objects) →
      BudgetKept objects w → walkIdentification code start rest w = .ok w' → BudgetKept objects w'
  | [], _, _, _, hw, h => by cases h; exact hw
  | (id, value) :: rest, w, w', hsub, hw, h => by
    have hrest : ∀ e ∈ rest, e ∈ objects := fun e he => hsub e (List.mem_cons_of_mem _ he)
    have hpack : ∀ {v : ObjectWalk}, BudgetKept objects v → utf16Length value + 2 ≤ 253 - v.totalLength →
        BudgetKept objects ((v.visit id).pack id (utf16Length value)) := by
      intro v hv hfit
      have hlook := lookup_of_mem hnd (hsub _ (List.mem_cons_self _ _))
      simp only [BudgetKept, packedUnits, ObjectWalk.pack, ObjectWalk.visit, List.map_append,
        List.map_singleton, List.sum_append, List.sum_cons, List.sum_nil, hlook, Option.getD_some] at hv ⊢
      omega
    obtain ⟨-, -, h | ⟨-, -, -, -, h⟩ | ⟨-, -, -, hfit, ⟨-, rfl⟩ | ⟨-, h⟩⟩⟩ := walkIdentification_cons_ok h
    · exact walkIdentification_budget hnd hrest (show BudgetKept objects (w.visit id) from hw) h
    · exact walkIdentification_budget hnd hrest (show BudgetKept objects { w.visit id with lastID := id } from hw) h
    · exact hpack hw hfit
    · exact walkIdentification_budget hnd hrest (hpack hw hfit) h

/-- Inserting puts the id somewhere among the others. -/
theorem insertAscending_perm (x : Nat) : ∀ l : List Nat, (insertAscending x l).Perm (x :: l)
  | [] => .refl _
  | y :: ys => by
    unfold insertAscending
    split
    · exact .refl _
    · exact ((insertAscending_perm x ys).cons y).trans (.swap x y ys)

/-- The sort reorders the ids and keeps them all. -/
theorem sortAscending_perm : ∀ l : List Nat, (sortAscending l).Perm l
  | [] => .refl _
  | x :: xs => (insertAscending_perm x _).trans ((sortAscending_perm xs).cons x)

/-- The response data is the six header bytes and, for each packed object, its id, its length
byte and its UTF-8 bytes. -/
theorem length_identificationData (code : Nat) (objects : List (Nat × String)) (w : ObjectWalk) :
    (identificationData code objects w).length =
      6 + (w.ids.map fun id => (utf8Bytes ((objects.lookup id).getD "")).length + 2).sum := by
  simp only [identificationData, List.length_append, List.length_cons, List.length_nil,
    List.length_flatMap]
  rw [((sortAscending_perm w.ids).map _).sum_eq]
  congr 3

/-- A value the map finds for an id is one of its objects' values, or the empty string. -/
theorem lookup_getD_mem (objects : List (Nat × String)) (id : Nat) :
    (objects.lookup id).getD "" = "" ∨ (id, (objects.lookup id).getD "") ∈ objects := by
  cases h : objects.lookup id with
  | none => exact .inl rfl
  | some v =>
    obtain ⟨l₁, l₂, hl, -⟩ := List.lookup_eq_some_iff.1 h
    exact .inr (hl ▸ List.mem_append_right _ (List.mem_cons_self _ _))

/-- With ASCII values, the response to any request the server answers normally stays within the
`253` bytes of a PDU. -/
theorem identificationData_ascii {identification : Identification}
    (hascii : ∀ e ∈ identification.entries, ∀ c ∈ e.2.data, c.toNat < 0x80) {code start : Nat}
    {w : ObjectWalk} (h : walkIdentification code start (seedObjects identification) {} = .ok w) :
    (identificationData code (seedObjects identification) w).length + 1 ≤ 253 := by
  have hbudget := walkIdentification_budget (nodup_keys_seedObjects identification) (fun _ he => he)
    ⟨rfl, by decide⟩ h
  have hsame : ∀ id ∈ w.ids, (utf8Bytes (((seedObjects identification).lookup id).getD "")).length + 2 =
      utf16Length (((seedObjects identification).lookup id).getD "") + 2 := by
    intro id _
    refine congrArg (· + 2) ((utf16Length_le _).2.2 ?_).symm
    rcases lookup_getD_mem (seedObjects identification) id with h | h
    · simp [h]
    · rcases (mem_seedObjects h).2 with hseed | hid
      · simp only [List.mem_cons, List.not_mem_nil, or_false, Prod.mk.injEq] at hseed
        rcases hseed with ⟨-, h⟩ | ⟨-, h⟩ | ⟨-, h⟩ <;> rw [h] <;> decide
      · exact hascii _ hid
  rw [length_identificationData, List.map_congr_left hsame]
  simp only [BudgetKept, packedUnits] at hbudget
  omega

/-- Every id the walk packs is one it had packed already or the id of an object it walked. -/
theorem walkIdentification_ids {code start : Nat} :
    ∀ {rest : List (Nat × String)} {w w' : ObjectWalk}, walkIdentification code start rest w = .ok w' →
      ∀ id ∈ w'.ids, id ∈ w.ids ∨ ∃ value, (id, value) ∈ rest
  | [], _, _, h => by cases h; exact fun _ hid => .inl hid
  | (id, value) :: rest, w, w', h => by
    have hstep : ∀ {v : ObjectWalk}, v.ids ⊆ w.ids ∪ [id] →
        walkIdentification code start rest v = .ok w' →
        ∀ i ∈ w'.ids, i ∈ w.ids ∨ ∃ value', (i, value') ∈ (id, value) :: rest := by
      intro v hv hrun i hi
      rcases walkIdentification_ids hrun i hi with hi | ⟨v', hv'⟩
      · rcases List.mem_union_iff.1 (hv hi) with hi | hi
        · exact .inl hi
        · exact .inr ⟨value, by rw [List.mem_singleton.1 hi]; exact List.mem_cons_self _ _⟩
      · exact .inr ⟨v', List.mem_cons_of_mem _ hv'⟩
    have hvisit : (w.visit id).ids ⊆ w.ids ∪ [id] := fun _ hi => List.mem_union_left hi _
    have hpack : ((w.visit id).pack id (utf16Length value)).ids ⊆ w.ids ∪ [id] := fun i hi => by
      simpa [ObjectWalk.pack, ObjectWalk.visit, List.mem_union_iff] using hi
    obtain ⟨-, -, h | ⟨-, -, -, -, h⟩ | ⟨-, -, -, -, ⟨-, rfl⟩ | ⟨-, h⟩⟩⟩ := walkIdentification_cons_ok h
    · exact hstep hvisit h
    · exact @hstep { w.visit id with lastID := id } hvisit h
    · exact fun i hi => (List.mem_union_iff.1 (hpack hi)).imp (fun hi => hi) fun hi =>
        ⟨value, by rw [List.mem_singleton.1 hi]; exact List.mem_cons_self _ _⟩
    · exact hstep hpack h

/-- The objects a response lists, in its order: each packed id, ascending, with the value the
map holds for it. -/
def packedEntries (objects : List (Nat × String)) (w : ObjectWalk) : List (Nat × String) :=
  (sortAscending w.ids).map fun id => (id, (objects.lookup id).getD "")

/-- The response data: the six header bytes, then each listed object as its id, a length byte
and the value's UTF-8 bytes. -/
theorem identificationData_eq (code : Nat) (objects : List (Nat × String)) (w : ObjectWalk) :
    identificationData code objects w =
      [0x0e, code, w.conformityLevel, if w.lastID = 0 then 0x00 else 0xff, w.lastID, w.ids.length] ++
        (packedEntries objects w).flatMap fun e => e.1 :: utf16Length e.2 :: utf8Bytes e.2 := by
  simp [identificationData, packedEntries, List.flatMap_map]

/-- The entries of a response, and its size. Each object it lists is an object of the map, and
its entry is its id, a length byte that counts the value's UTF-16 code units, and the value's
UTF-8 bytes, which are as many as the length byte says exactly when the value is ASCII, and more
otherwise. The walk keeps the objects' code units, with two bytes each for the id and the length
byte, within `253 - 10`, while the PDU (the function code and the data) has `7` bytes and each
object's UTF-8 bytes and two more: so it stays within `253` bytes for ASCII values, and not for
others. -/
theorem identificationResponse_entries {identification : Identification} {code start : Nat}
    {w : ObjectWalk} (h : walkIdentification code start (seedObjects identification) {} = .ok w) :
    identificationData code (seedObjects identification) w =
        [0x0e, code, w.conformityLevel, if w.lastID = 0 then 0x00 else 0xff, w.lastID, w.ids.length] ++
          (packedEntries (seedObjects identification) w).flatMap
            (fun e => e.1 :: utf16Length e.2 :: utf8Bytes e.2) ∧
    (∀ e ∈ packedEntries (seedObjects identification) w, e ∈ seedObjects identification ∧
      utf16Length e.2 ≤ (utf8Bytes e.2).length ∧
      (utf16Length e.2 = (utf8Bytes e.2).length ↔ ∀ c ∈ e.2.data, c.toNat < 0x80)) ∧
    10 + ((packedEntries (seedObjects identification) w).map fun e => utf16Length e.2 + 2).sum ≤ 253 ∧
    (identificationData code (seedObjects identification) w).length + 1 =
      7 + ((packedEntries (seedObjects identification) w).map fun e => (utf8Bytes e.2).length + 2).sum ∧
    ((∀ e ∈ identification.entries, ∀ c ∈ e.2.data, c.toNat < 0x80) →
      (identificationData code (seedObjects identification) w).length + 1 ≤ 253) := by
  have hnd := nodup_keys_seedObjects identification
  have hmem : ∀ e ∈ packedEntries (seedObjects identification) w, e ∈ seedObjects identification := by
    simp only [packedEntries, List.mem_map]
    rintro _ ⟨id, hid, rfl⟩
    rcases walkIdentification_ids h id ((sortAscending_perm w.ids).subset hid) with hid | ⟨value, hv⟩
    · cases hid
    · rw [lookup_of_mem hnd hv]; exact hv
  have hbudget := walkIdentification_budget hnd (fun _ he => he) ⟨rfl, by decide⟩ h
  simp only [BudgetKept, packedUnits] at hbudget
  have hunits : ((packedEntries (seedObjects identification) w).map fun e => utf16Length e.2 + 2).sum =
      (w.ids.map fun id => utf16Length (((seedObjects identification).lookup id).getD "") + 2).sum := by
    rw [packedEntries, List.map_map]
    exact ((sortAscending_perm w.ids).map _).sum_eq
  refine ⟨identificationData_eq _ _ _, fun e he => ⟨hmem e he, utf16Length_le e.2⟩, by omega, ?_,
    fun hascii => identificationData_ascii hascii h⟩
  have hentry : (List.length ∘ fun e : Nat × String => e.1 :: utf16Length e.2 :: utf8Bytes e.2) =
      fun e => (utf8Bytes e.2).length + 2 := rfl
  rw [identificationData_eq]
  simp only [List.length_append, List.length_cons, List.length_nil, List.length_flatMap, hentry]
  omega

/-- The UTF-16 code units of `n` copies of one character. -/
theorem utf16Length_replicate (n : Nat) (c : Char) : utf16Length (String.replicate n c) = n * utf16Units c := by
  simp [utf16Length, String.replicate]

/-- The UTF-8 bytes of `n` copies of one character. -/
theorem length_utf8Bytes_replicate (n : Nat) (c : Char) :
    (utf8Bytes (String.replicate n c)).length = n * (utf8Encode c).length := by
  simp [utf8Bytes, String.replicate, List.length_flatMap]

/-- `identificationResponse_entries` at the basic read of `{ 0: 'é' }`, whose entry for object
`0` has the length byte `1` and the two bytes `0xC3 0xA9`, and of `{ 3: '€'.repeat(200) }`,
whose `202` code units fit the `225` left after the seeds, so that objects `0` to `3` are
packed, and whose PDU has `627` bytes. -/
theorem identificationResponse_entries_nonAscii :
    walkIdentification 1 0 (seedObjects ⟨[(0, "é")], List.pairwise_singleton _ _⟩) {} =
        .ok { ids := [0, 1, 2], totalLength := 25 } ∧
      identificationData 1 (seedObjects ⟨[(0, "é")], List.pairwise_singleton _ _⟩)
          { ids := [0, 1, 2], totalLength := 25 } =
        [0x0e, 1, 0x81, 0, 0, 3, 0, 1, 0xc3, 0xa9, 1, 4, 110, 117, 108, 108, 2, 4, 110, 117, 108, 108] ∧
    walkIdentification 1 0 (seedObjects ⟨[(3, String.replicate 200 '€')], List.pairwise_singleton _ _⟩) {} =
        .ok { ids := [0, 1, 2, 3], totalLength := 230, conformityLevel := 0x82 } ∧
      (identificationData 1 (seedObjects ⟨[(3, String.replicate 200 '€')], List.pairwise_singleton _ _⟩)
          { ids := [0, 1, 2, 3], totalLength := 230, conformityLevel := 0x82 }).length + 1 = 627 := by
  have haccented : walkIdentification 1 0 (seedObjects ⟨[(0, "é")], List.pairwise_singleton _ _⟩) {} =
      .ok { ids := [0, 1, 2], totalLength := 25 } := by decide
  have hseed : seedObjects ⟨[(3, String.replicate 200 '€')], List.pairwise_singleton _ _⟩ =
      [(0, "null"), (1, "null"), (2, "null"), (3, String.replicate 200 '€')] := rfl
  have hlen : utf16Length (String.replicate 200 '€') = 200 := by rw [utf16Length_replicate]; rfl
  have hbytes : (utf8Bytes (String.replicate 200 '€')).length = 600 := by
    rw [length_utf8Bytes_replicate]; rfl
  have heuro : walkIdentification 1 0
      (seedObjects ⟨[(3, String.replicate 200 '€')], List.pairwise_singleton _ _⟩) {} =
      .ok { ids := [0, 1, 2, 3], totalLength := 230, conformityLevel := 0x82 } := by
    rw [hseed]
    generalize String.replicate 200 '€' = euro at hlen ⊢
    simp only [walkIdentification_cons, hlen, show utf16Length "null" = 4 from rfl]
    rfl
  refine ⟨haccented, by rw [(identificationResponse_entries haccented).1]; rfl, heuro, ?_⟩
  rw [(identificationResponse_entries heuro).2.2.2.1, hseed]
  generalize String.replicate 200 '€' = euro at hbytes ⊢
  simp [packedEntries, show sortAscending [0, 1, 2, 3] = [0, 1, 2, 3] from rfl,
    show [(0, "null"), (1, "null"), (2, "null"), (3, euro)].lookup 1 = some "null" from rfl,
    show [(0, "null"), (1, "null"), (2, "null"), (3, euro)].lookup 2 = some "null" from rfl,
    show [(0, "null"), (1, "null"), (2, "null"), (3, euro)].lookup 3 = some euro from rfl, hbytes]
  rfl
/-! ## A start object that does not fit -/

/-- An object the walk does not answer `SERVER_DEVICE_FAILURE` for, wherever it stands. -/
def ObjectAllowed (e : Nat × String) : Prop :=
  ¬(0x07 ≤ e.1 ∧ e.1 ≤ 0x7f) ∧ e.1 ≤ 0xff ∧ utf16Length e.2 ≤ 245

instance : DecidablePred ObjectAllowed := fun e =>
  inferInstanceAs (Decidable (¬(0x07 ≤ e.1 ∧ e.1 ≤ 0x7f) ∧ e.1 ≤ 0xff ∧ utf16Length e.2 ≤ 245))

/-- Looking at ids changes only the conformity level. -/
theorem foldl_visit (objects : List (Nat × String)) (w : ObjectWalk) :
    objects.foldl (fun w e => w.visit e.1) w =
      { w with conformityLevel := objects.foldl (fun c e => conformityStep c e.1) w.conformityLevel } := by
  induction objects generalizing w with
  | nil => rfl
  | cons e rest ih => exact ih (w.visit e.1)

/-- The walk passes over the objects before the start id, looking only at their ids. -/
theorem walkIdentification_before {code start : Nat} {rest : List (Nat × String)} :
    ∀ {pre : List (Nat × String)} {w : ObjectWalk}, (∀ e ∈ pre, e.1 < start ∧ ObjectAllowed e) →
      walkIdentification code start (pre ++ rest) w =
        walkIdentification code start rest (pre.foldl (fun w e => w.visit e.1) w)
  | [], _, _ => rfl
  | (id, value) :: pre, w, h => by
    obtain ⟨hlt, hid, hff, -⟩ := h (id, value) (List.mem_cons_self _ _)
    rw [List.cons_append, walkIdentification_cons, if_neg (by omega), if_pos hlt, List.foldl_cons]
    exact walkIdentification_before fun e he => h e (List.mem_cons_of_mem _ he)

/-- Once the walk has a continuation point, it packs nothing more and only looks at ids. -/
theorem walkIdentification_after {code start : Nat} :
    ∀ {rest : List (Nat × String)} {w : ObjectWalk}, w.lastID ≠ 0 → (∀ e ∈ rest, ObjectAllowed e) →
      walkIdentification code start rest w = .ok (rest.foldl (fun w e => w.visit e.1) w)
  | [], _, _, _ => rfl
  | (id, value) :: rest, w, hl, h => by
    obtain ⟨hid, hff, hlen⟩ : ObjectAllowed (id, value) := h _ (List.mem_cons_self _ _)
    dsimp only at hid hff hlen
    have ih := @walkIdentification_after code start rest (w.visit id) hl
      fun e he => h e (List.mem_cons_of_mem _ he)
    rw [walkIdentification_cons, if_neg (by omega), List.foldl_cons]
    split
    · exact ih
    · rw [if_neg (by omega)]
      exact ih

/-- An object from the start on that does not fit what is left of the budget becomes the
continuation point, if there is none yet. -/
theorem walkIdentification_overflow {code start id : Nat} {value : String} {rest : List (Nat × String)}
    {w : ObjectWalk} (hallowed : ObjectAllowed (id, value)) (hge : start ≤ id) (hl : w.lastID = 0)
    (hover : 253 - w.totalLength < utf16Length value + 2) :
    walkIdentification code start ((id, value) :: rest) w =
      walkIdentification code start rest { w.visit id with lastID := id } := by
  obtain ⟨hid, hff, hlen⟩ := hallowed
  dsimp only at hid hff hlen
  rw [walkIdentification_cons, if_neg (by omega), if_neg (by omega), if_neg (by omega),
    if_neg (by simp [hl]), if_pos (by omega)]

/-- The objects of the map are the seeded ones and the identification's, so they are allowed
when the identification's are. -/
theorem seedObjects_allowed {identification : Identification}
    (hkeys : ∀ e ∈ identification.entries, ¬(0x07 ≤ e.1 ∧ e.1 ≤ 0x7f))
    (hlen : ∀ e ∈ identification.entries, utf16Length e.2 ≤ 245) :
    ∀ e ∈ seedObjects identification, ObjectAllowed e := by
  intro e he
  obtain ⟨hff, hseed | hid⟩ := mem_seedObjects he
  · simp only [List.mem_cons, List.not_mem_nil, or_false] at hseed
    rcases hseed with rfl | rfl | rfl <;> decide
  · exact ⟨hkeys e hid, hff, hlen e hid⟩

/-- When the start object is not `0` and its value has `242` to `245` code units, it passes the
size check but can never fit the `253`-byte budget: the walk sets it as the continuation point
and the response lists no object and names the start object as the next one, for any read
code. -/
theorem identificationResponse_stalls (readDeviceIDCode : Nat) {identification : Identification}
    (hkeys : ∀ e ∈ identification.entries, ¬(0x07 ≤ e.1 ∧ e.1 ≤ 0x7f))
    (hlen : ∀ e ∈ identification.entries, utf16Length e.2 ≤ 245) {objectID : Nat} {value : String}
    (hs : (seedObjects identification).lookup objectID = some value) (h0 : objectID ≠ 0)
    (hbig : 241 < utf16Length value) (frame : ApplicationDataUnit) :
    identificationResponse encode frame readDeviceIDCode objectID identification =
      encodeWith encode frame [0x0e, readDeviceIDCode,
        (seedObjects identification).foldl (fun c e => conformityStep c e.1) 0x81, 0xff, objectID, 0] := by
  obtain ⟨pre, post, hsplit, -⟩ := List.lookup_eq_some_iff.1 hs
  have hallowed := seedObjects_allowed hkeys hlen
  have hasc := seedObjects_ascending identification
  rw [hsplit, List.map_append, List.map_cons, List.pairwise_append] at hasc
  have hpre : ∀ e ∈ pre, e.1 < objectID ∧ ObjectAllowed e := fun e he =>
    ⟨hasc.2.2 e.1 (List.mem_map_of_mem _ he) objectID (List.mem_cons_self _ _),
      hallowed e (hsplit ▸ List.mem_append_left _ he)⟩
  have hpost : ∀ e ∈ post, ObjectAllowed e := fun e he =>
    hallowed e (hsplit ▸ List.mem_append_right _ (List.mem_cons_of_mem _ he))
  have hmem : (objectID, value) ∈ seedObjects identification :=
    hsplit ▸ List.mem_append_right _ (List.mem_cons_self _ _)
  have hany : (seedObjects identification).any (·.1 = objectID) = true :=
    List.any_eq_true.2 ⟨(objectID, value), hmem, by simp⟩
  have hwalk : walkIdentification readDeviceIDCode objectID (seedObjects identification) {} =
      .ok (post.foldl (fun w e => w.visit e.1)
        { (pre.foldl (fun w e => w.visit e.1) ({} : ObjectWalk)).visit objectID with lastID := objectID }) := by
    rw [hsplit, walkIdentification_before hpre, foldl_visit,
      walkIdentification_overflow (hallowed _ hmem) le_rfl rfl (by dsimp only; omega)]
    exact walkIdentification_after h0 hpost
  simp only [identificationResponse, hany, if_true, hwalk, identificationData, foldl_visit, if_neg h0]
  rw [hsplit, List.foldl_append, List.foldl_cons]
  rfl

/-- `identificationResponse_stalls` for `{ 1: 'a'.repeat(242) }`, read from object `1`. -/
theorem identificationResponse_stalls_longObject :
    (∀ e ∈ [(1, (⟨List.replicate 242 'a'⟩ : String))], ¬(0x07 ≤ e.1 ∧ e.1 ≤ 0x7f)) ∧
    (∀ e ∈ [(1, (⟨List.replicate 242 'a'⟩ : String))], utf16Length e.2 ≤ 245) ∧
    (seedObjects ⟨[(1, ⟨List.replicate 242 'a'⟩)], List.pairwise_singleton _ _⟩).lookup 1 =
      some ⟨List.replicate 242 'a'⟩ ∧ 1 ≠ 0 ∧ 241 < utf16Length ⟨List.replicate 242 'a'⟩ ∧
    identificationResponse (fun adu => some adu.data) { unit := 1, fc := 0x2b, data := [] } 1 1
      ⟨[(1, ⟨List.replicate 242 'a'⟩)], List.pairwise_singleton _ _⟩ =
      encodeWith (fun adu => some adu.data) { unit := 1, fc := 0x2b, data := [] } [0x0e, 1,
        (seedObjects ⟨[(1, ⟨List.replicate 242 'a'⟩)], List.pairwise_singleton _ _⟩).foldl
          (fun c e => conformityStep c e.1) 0x81, 0xff, 1, 0] := by
  have hlen : utf16Length ⟨List.replicate 242 'a'⟩ = 242 := by
    rw [utf16Length, List.map_replicate, List.sum_replicate]
    rfl
  have h1 : ∀ e ∈ [(1, (⟨List.replicate 242 'a'⟩ : String))], ¬(0x07 ≤ e.1 ∧ e.1 ≤ 0x7f) := by
    simp only [List.mem_singleton, forall_eq]
    decide
  have h2 : ∀ e ∈ [(1, (⟨List.replicate 242 'a'⟩ : String))], utf16Length e.2 ≤ 245 := by
    simp only [List.mem_singleton, forall_eq, hlen]
    decide
  have h3 : (seedObjects ⟨[(1, ⟨List.replicate 242 'a'⟩)], List.pairwise_singleton _ _⟩).lookup 1 =
      some ⟨List.replicate 242 'a'⟩ := rfl
  have h5 : 241 < utf16Length ⟨List.replicate 242 'a'⟩ := by rw [hlen]; decide
  exact ⟨h1, h2, h3, by decide, h5,
    identificationResponse_stalls (fun adu => some adu.data) 1 h1 h2 h3 (by decide) h5 _⟩

/-! ## The conformity level -/

/-- The conformity level as a function of the map's ids alone: `0x81` when every id is a basic
one, `0x83` when some id is above `0x80`, and `0x82` otherwise. -/
def mapConformityLevel (ids : List Nat) : Nat :=
  if ids.any (· > 0x80) then 0x83 else if ids.any (· > 0x02) then 0x82 else 0x81

/-- Over ascending ids the level the walk accumulates is decided by the largest. -/
theorem foldl_conformityStep {c : Nat} : ∀ {ids : List Nat}, ids.Pairwise (· < ·) →
    ids.foldl conformityStep c =
      if ids.any (· > 0x80) then 0x83 else if ids.any (· > 0x02) then 0x82 else c
  | [], _ => rfl
  | x :: ids, h => by
    obtain ⟨hx, hids⟩ := List.pairwise_cons.1 h
    rw [List.foldl_cons, foldl_conformityStep hids]
    simp only [List.any_cons, List.any_eq_true, decide_eq_true_eq, Bool.or_eq_true, conformityStep]
    by_cases h83 : ∃ y ∈ ids, y > 0x80
    · simp [h83]
    · by_cases h82 : ∃ y ∈ ids, y > 0x02
      · obtain ⟨y, hy, hy2⟩ := h82
        have hxy := hx y hy
        have hy80 : ¬y > 0x80 := fun h' => h83 ⟨y, hy, h'⟩
        simp only [h83, or_false, if_false]
        rw [if_pos ⟨y, hy, hy2⟩, if_neg (by omega), if_pos (.inr ⟨y, hy, hy2⟩)]
      · simp [h83, h82]

/-- A walk over every object, the one of the read codes other than `0x04`, accumulates the level
over all of them. -/
theorem walkIdentification_conformity {code start : Nat} (hcode : code ≠ 0x04) :
    ∀ {objects : List (Nat × String)} {w w' : ObjectWalk}, walkIdentification code start objects w = .ok w' →
      w'.conformityLevel = objects.foldl (fun c e => conformityStep c e.1) w.conformityLevel
  | [], _, _, h => by cases h; rfl
  | (id, value) :: rest, w, w', h => by
    rw [List.foldl_cons]
    obtain ⟨-, -, h | ⟨-, -, -, -, h⟩ | ⟨-, -, -, -, ⟨hc, -⟩ | ⟨-, h⟩⟩⟩ := walkIdentification_cons_ok h
    · exact walkIdentification_conformity hcode h
    · exact walkIdentification_conformity hcode h
    · exact absurd hc hcode
    · exact walkIdentification_conformity hcode h

/-- An individual access that answers with an object accumulates the level only over the
objects up to that one. -/
theorem walkIdentification_conformity_individual {start : Nat} :
    ∀ {objects : List (Nat × String)} {w w' : ObjectWalk}, walkIdentification 0x04 start objects w = .ok w' →
      w'.ids ≠ w.ids → ∃ pre id value post, objects = pre ++ (id, value) :: post ∧ w'.ids = w.ids ++ [id] ∧
        w'.conformityLevel = (pre ++ [(id, value)]).foldl (fun c e => conformityStep c e.1) w.conformityLevel
  | [], _, _, h, hne => by cases h; exact absurd rfl hne
  | (id, value) :: rest, w, w', h, hne => by
    obtain ⟨-, -, h | ⟨-, -, -, -, h⟩ | ⟨-, -, -, -, ⟨-, rfl⟩ | ⟨hc, -⟩⟩⟩ := walkIdentification_cons_ok h
    · obtain ⟨pre, id', value', post, rfl, hids, hlevel⟩ := walkIdentification_conformity_individual h hne
      exact ⟨(id, value) :: pre, id', value', post, rfl, hids, hlevel⟩
    · obtain ⟨pre, id', value', post, rfl, hids, hlevel⟩ := walkIdentification_conformity_individual h hne
      exact ⟨(id, value) :: pre, id', value', post, rfl, hids, hlevel⟩
    · exact ⟨[], id, value, rest, rfl, rfl, rfl⟩
    · exact absurd rfl hc

/-- The level over the objects of a prefix of the map, which ascends, is that of their ids. -/
theorem foldl_conformityStep_seedObjects {identification : Identification} {pre post : List (Nat × String)}
    {e : Nat × String} (h : seedObjects identification = pre ++ e :: post) :
    (pre ++ [e]).foldl (fun c e => conformityStep c e.1) 0x81 = mapConformityLevel ((pre ++ [e]).map (·.1)) := by
  have hasc := seedObjects_ascending identification
  rw [h, ← List.singleton_append, ← List.append_assoc, List.map_append, List.pairwise_append] at hasc
  rw [← List.foldl_map, foldl_conformityStep hasc.1]
  rfl

/-- The conformity level of a response. A read code other than `0x04` walks every object, and its
level is the map's, decided by the map's ids alone; an individual access stops at the object it
answers with, and its level is that of the ids up to that object. -/
theorem identification_conformityLevel (identification : Identification) (start : Nat) :
    (∀ code w, code ≠ 0x04 → walkIdentification code start (seedObjects identification) {} = .ok w →
      w.conformityLevel = mapConformityLevel ((seedObjects identification).map (·.1))) ∧
    (∀ w, walkIdentification 0x04 start (seedObjects identification) {} = .ok w → w.ids ≠ [] →
      ∃ pre id value post, seedObjects identification = pre ++ (id, value) :: post ∧ w.ids = [id] ∧
        w.conformityLevel = mapConformityLevel ((pre ++ [(id, value)]).map (·.1))) := by
  refine ⟨fun code w hcode h => ?_, fun w h hne => ?_⟩
  · rw [walkIdentification_conformity hcode h, ← List.foldl_map,
      foldl_conformityStep (seedObjects_ascending identification)]
    rfl
  · obtain ⟨pre, id, value, post, hsplit, hids, hlevel⟩ := walkIdentification_conformity_individual h hne
    exact ⟨pre, id, value, post, hsplit, hids, hlevel.trans (foldl_conformityStep_seedObjects hsplit)⟩

/-- `identification_conformityLevel` at `{ 0x81: 'x' }`: the basic read walks every object and
answers with the map's level `0x83`; the individual access to object `0` stops there and answers
with `0x81`. -/
theorem identification_conformityLevel_highObject :
    walkIdentification 1 0 (seedObjects ⟨[(0x81, "x")], List.pairwise_singleton _ _⟩) {} =
        .ok { ids := [0, 1, 2, 0x81], totalLength := 31, conformityLevel := 0x83 } ∧
    walkIdentification 4 0 (seedObjects ⟨[(0x81, "x")], List.pairwise_singleton _ _⟩) {} =
        .ok { ids := [0], totalLength := 16, conformityLevel := 0x81 } ∧
    ((∀ code w, code ≠ 0x04 →
        walkIdentification code 0 (seedObjects ⟨[(0x81, "x")], List.pairwise_singleton _ _⟩) {} = .ok w →
        w.conformityLevel =
          mapConformityLevel ((seedObjects ⟨[(0x81, "x")], List.pairwise_singleton _ _⟩).map (·.1))) ∧
      (∀ w, walkIdentification 0x04 0 (seedObjects ⟨[(0x81, "x")], List.pairwise_singleton _ _⟩) {} = .ok w →
        w.ids ≠ [] →
        ∃ pre id value post, seedObjects ⟨[(0x81, "x")], List.pairwise_singleton _ _⟩ = pre ++ (id, value) :: post ∧
          w.ids = [id] ∧ w.conformityLevel = mapConformityLevel ((pre ++ [(id, value)]).map (·.1)))) :=
  ⟨by decide, by decide, identification_conformityLevel _ 0⟩

end ModbusSlave

end NjsModbus
