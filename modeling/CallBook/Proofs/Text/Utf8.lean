import CallBook.Storage.Content
import CallBook.Text.Ascii

/-!
# UTF-8 reads back

The bytes of a text are read strictly as that text (`decode?_encode`): no unit of them is broken. A
character takes one to four bytes; the first one is a lead byte with as many tails as follow, and
the two ranges that a lead may narrow are the ones that over-long forms and surrogates would need,
which no character has.
-/

namespace CallBook.Text.Utf8

theorem toNat_ofNat {n : Nat} (h : n < 256) : (UInt8.ofNat n).toNat = n := by
  rw [UInt8.toNat_ofNat', Nat.mod_eq_of_lt h]

/-- A tail byte in range adds its six bits. -/
theorem tails_cons {count low high bits t : Nat} (hlow : low ≤ t) (hhigh : t ≤ high) (ht : t < 256)
    (bytes : List UInt8) :
    tails (count + 1) low high bits (UInt8.ofNat t :: bytes)
      = tails count 0x80 0xBF (bits * 64 + t % 64) bytes := by
  rw [tails, toNat_ofNat ht, if_pos ⟨hlow, hhigh⟩]

/-- A first byte with the tails that it promises. -/
theorem unit_of_lead? {n : Nat} {lead : Lead} (hn : n < 256) (h : lead? n = some lead)
    (bytes : List UInt8) :
    unit (UInt8.ofNat n) bytes = tails lead.tails lead.low lead.high lead.bits bytes := by
  rw [unit, toNat_ofNat hn, h]

/-- One byte below 128 is a character. -/
theorem unit_one {x : Nat} (h : x < 128) (bytes : List UInt8) :
    unit (UInt8.ofNat x) bytes = (some (Char.ofNat x), bytes) :=
  unit_of_lead? (by omega) (if_pos h) bytes

/-- A byte from C2 to DF takes one more. -/
theorem unit_two {x : Nat} (h2 : 2 ≤ x) (h : x < 32) (bytes : List UInt8) :
    unit (UInt8.ofNat (x + 0xC0)) bytes = tails 1 0x80 0xBF x bytes := by
  have hlead : ∀ y < 32, 2 ≤ y → lead? (y + 0xC0) = some { tails := 1, bits := y } := by decide
  exact unit_of_lead? (by omega) (hlead x h h2) bytes

/-- A byte from E0 to EF takes two more. -/
theorem unit_three {x : Nat} (h : x < 16) (bytes : List UInt8) :
    unit (UInt8.ofNat (x + 0xE0)) bytes
      = tails 2 (if x = 0 then 0xA0 else 0x80) (if x = 13 then 0x9F else 0xBF) x bytes := by
  have hlead : ∀ y < 16, lead? (y + 0xE0) = some
      { tails := 2, low := if y = 0 then 0xA0 else 0x80, high := if y = 13 then 0x9F else 0xBF,
        bits := y } := by decide
  exact unit_of_lead? (by omega) (hlead x h) bytes

/-- A byte from F0 to F4 takes three more. -/
theorem unit_four {x : Nat} (h : x < 5) (bytes : List UInt8) :
    unit (UInt8.ofNat (x + 0xF0)) bytes
      = tails 3 (if x = 0 then 0x90 else 0x80) (if x = 4 then 0x8F else 0xBF) x bytes := by
  have hlead : ∀ y < 5, lead? (y + 0xF0) = some
      { tails := 3, low := if y = 0 then 0x90 else 0x80, high := if y = 4 then 0x8F else 0xBF,
        bits := y } := by decide
  exact unit_of_lead? (by omega) (hlead x h) bytes

/-- The bytes of a character are one unit. -/
theorem unit_utf8EncodeChar (c : Char) (bytes : List UInt8) :
    ∃ b more, String.utf8EncodeChar c = b :: more ∧ unit b (more ++ bytes) = (some c, bytes) := by
  have hvalid : c.val.toNat < 0xD800 ∨ 0xDFFF < c.val.toNat ∧ c.val.toNat < 0x110000 := c.valid
  have hc : Char.ofNat c.val.toNat = c := Char.ofNat_toNat c
  -- one case for each length; `c.valid` is what rules out the surrogates
  fun_cases String.utf8EncodeChar c with
  | case1 v h1 =>
    refine ⟨_, _, rfl, ?_⟩
    rw [unit_one (by omega), hc]
    rfl
  | case2 v h1 h2 =>
    refine ⟨_, _, rfl, ?_⟩
    rw [unit_two (by omega) (by omega), List.cons_append,
      tails_cons (by omega) (by omega) (by omega), tails,
      show v / 64 % 32 * 64 + (v % 64 + 128) % 64 = v by omega, hc]
    rfl
  | case3 v h1 h2 h3 =>
    refine ⟨_, _, rfl, ?_⟩
    rw [unit_three (by omega), List.cons_append, List.cons_append,
      tails_cons (by split <;> omega) (by split <;> omega) (by omega),
      tails_cons (by omega) (by omega) (by omega), tails,
      show (v / 4096 % 16 * 64 + (v / 64 % 64 + 128) % 64) * 64 + (v % 64 + 128) % 64 = v by omega,
      hc]
    rfl
  | case4 v h1 h2 h3 =>
    refine ⟨_, _, rfl, ?_⟩
    rw [unit_four (by omega), List.cons_append, List.cons_append,
      List.cons_append, tails_cons (by split <;> omega) (by split <;> omega) (by omega),
      tails_cons (by omega) (by omega) (by omega), tails_cons (by omega) (by omega) (by omega),
      tails,
      show ((v / 262144 % 8 * 64 + (v / 4096 % 64 + 128) % 64) * 64 + (v / 64 % 64 + 128) % 64) * 64
        + (v % 64 + 128) % 64 = v by omega, hc]
    rfl

/-- What holds of the ASCII characters one by one. -/
theorem forall_ascii {p : Char → Prop} (h : ∀ n < 128, p (Char.ofNat n)) {c : Char}
    (hc : c.toNat < 128) : p c := by
  have hn := h c.toNat hc
  rwa [Char.ofNat_toNat] at hn

theorem toNat_lt_of_isAsciiLetter {c : Char} (h : isAsciiLetter c = true) : c.toNat < 128 := by
  change (decide (c.val ≥ 65 ∧ c.val ≤ 90) || (decide (c.val ≥ 97) && decide (c.val ≤ 122)))
    = true at h
  simp only [Bool.or_eq_true, Bool.and_eq_true, decide_eq_true_eq, UInt32.le_iff_toNat_le] at h
  change (_ ≤ c.toNat ∧ c.toNat ≤ 90) ∨ (_ ≤ c.toNat ∧ c.toNat ≤ 122) at h
  omega

theorem toNat_lt_of_isDigit {c : Char} (h : isDigit c = true) : c.toNat < 128 := by
  have hrange : 48 ≤ c.toNat ∧ c.toNat ≤ 57 := Char.isDigit_iff_toNat.mp h
  omega

/-- An ASCII character is one byte. -/
theorem encode_ascii {s : List Char} (h : ∀ c ∈ s, c.toNat < 128) :
    encode s = s.map fun c => UInt8.ofNat c.toNat := by
  have hall : ∀ c : Char, c.toNat < 128 → String.utf8EncodeChar c = [UInt8.ofNat c.toNat] :=
    fun c => forall_ascii (p := fun c => String.utf8EncodeChar c = [UInt8.ofNat c.toNat])
      (by decide)
  induction s with
  | nil => rfl
  | cons c s ih =>
    rw [List.forall_mem_cons] at h
    rw [encode, List.flatMap_cons, hall c h.1, List.map_cons, ← ih h.2]
    rfl

/-- What is encoded is decoded, character by character. -/
theorem units_encode (s : List Char) : units (encode s) = s.map some := by
  induction s with
  | nil =>
    rw [encode, List.flatMap_nil, units]
    rfl
  | cons c s ih =>
    obtain ⟨b, more, hb, hunit⟩ := unit_utf8EncodeChar c (encode s)
    rw [encode, List.flatMap_cons, hb, List.cons_append, units]
    show (unit b (more ++ encode s)).1 :: units (unit b (more ++ encode s)).2 = _
    rw [hunit, ih]
    rfl

/-- The bytes of a text are read strictly as that text. -/
theorem decode?_encode (s : List Char) : decode? (encode s) = some s := by
  rw [decode?, units_encode]
  induction s with
  | nil => rfl
  | cons c s ih => rw [List.map_cons, List.mapM_cons, ih]; rfl

end CallBook.Text.Utf8

namespace CallBook.Content

@[simp] theorem text?_ofText (text : String) : (ofText text).text? = .ok text := by
  rw [ofText, text?, Text.Utf8.decode?_encode]
  simp only [String.ofList_toList]

end CallBook.Content
