import CallBook.Http.Wire
import CallBook.Proofs.Answers
import CallBook.Proofs.Http.HeaderMap
import CallBook.Proofs.Json.Integers
import CallBook.Proofs.Text.Trimming
import CallBook.Proofs.Text.Utf8
import CallBook.Proofs.Url.Address
import Mathlib.Data.Bool.AllAny

/-!
# Where the body of a request ends

Behind the empty line of a request there is what its fields announce and no more, so that a peer who
reads as much as they say finds nothing in which another request could begin (`Delimits`). The
headers of a call may say what they like about its body: encodings are completed, so that the body
goes out in chunks, and these are read back up to their end (`chunks_inOneChunk`); a length that
they agree on is kept, and the body is cut to it; and any other length is replaced by that of the
body, which is read back as a number (`agreedLength?_decimalText`). What the headers say of anything
else stays as it is (`valuesOf_framed`).
-/

namespace CallBook.Http

open Text.Utf8 (encode encode_ascii)

/-! ## Statement -/

/-- The last of the encodings is that of chunks: it has that name, or this was written behind it. -/
def EndsInChunks (encodings : List (List UInt8)) : Prop :=
  endsChunked encodings = true ∨
    ∃ last, encodings.getLast? = some (last ++ encode ", chunked".toList)

/-- Behind the empty line there is what the fields announce: the body in chunks, so much of it as
the length says, or nothing at all. -/
structure Delimits (fs : List Field) (body payload : List UInt8) : Prop where
  inChunks : valuesOf "transfer-encoding" fs ≠ [] →
    EndsInChunks (valuesOf "transfer-encoding" fs) ∧ chunks payload = .ok (body, [])
  byLength : valuesOf "transfer-encoding" fs = [] → ∀ n,
    agreedLength? (valuesOf "content-length" fs) = some n → payload = body.take n
  nothing : valuesOf "transfer-encoding" fs = [] →
    agreedLength? (valuesOf "content-length" fs) = none → body = [] ∧ payload = []

/-! ## Chunks -/

/-- A number that was read, and what is left. -/
def sizeAndRest {bytes : List UInt8} (x : Except BodyError (Nat × Rest bytes)) :
    Except BodyError (Nat × List UInt8) :=
  x.map fun r => (r.1, r.2.1)

/-- The digit of a number below 16 in the size of a chunk. -/
def sizeDigit (n : Nat) : UInt8 := UInt8.ofNat (Nat.digitChar n).toUpper.toNat

/-- A digit of a size is read back. -/
theorem hexValue?_sizeDigit {d : Nat} (h : d < 16) :
    (sizeDigit d).toNat < 128 ∧ Text.hexValue? (Char.ofNat (sizeDigit d).toNat) = some d := by
  have hall : ∀ d < 16, (sizeDigit d).toNat < 128 ∧
      Text.hexValue? (Char.ofNat (sizeDigit d).toNat) = some d := by decide
  exact hall d h

/-- A size is written with one byte for each digit. -/
theorem encode_sizeText (n : Nat) : encode (sizeText n)
    = (Nat.toDigits 16 n).map fun c => UInt8.ofNat c.toUpper.toNat := by
  have hascii : ∀ c ∈ Url.addressDigits, c.toUpper.toNat < 128 :=
    List.all_iff_forall_prop.mp (by decide)
  rw [sizeText, Text.hexText, encode_ascii, List.map_map]
  · rfl
  · intro c hc
    obtain ⟨d, hd, rfl⟩ := List.mem_map.mp hc
    exact hascii d (Url.hexText_subset n hd)

/-- One more digit of a size. -/
theorem chunkSize_sizeDigit {d : Nat} (hd : d < 16) (size : Option Nat)
    (hsize : size.getD 0 * 16 + d ≤ maxLength) (bytes : List UInt8) :
    sizeAndRest (chunkSize size (sizeDigit d :: bytes))
      = sizeAndRest (chunkSize (some (size.getD 0 * 16 + d)) bytes) := by
  obtain ⟨hascii, hvalue⟩ := hexValue?_sizeDigit hd
  conv_lhs => unfold chunkSize
  rw [if_pos hascii, hvalue]
  dsimp only
  rw [if_neg (Nat.not_lt.mpr hsize)]
  cases chunkSize (some (size.getD 0 * 16 + d)) bytes <;> rfl

/-- The digits of a number are read as this number. -/
theorem chunkSize_sizeText {n : Nat} (hn : n ≤ maxLength) (bytes : List UInt8) :
    sizeAndRest (chunkSize none (encode (sizeText n) ++ bytes))
      = sizeAndRest (chunkSize (some n) bytes) := by
  rw [encode_sizeText]
  induction n using Nat.strongRecOn generalizing bytes with
  | ind n ih =>
    by_cases hlow : n < 16
    · rw [Nat.toDigits_of_lt_base hlow]
      exact (chunkSize_sizeDigit hlow none (by simpa using hn) bytes).trans (by simp)
    · rw [Nat.toDigits_of_base_le (by decide) (Nat.le_of_not_lt hlow), List.map_append,
        List.append_assoc, ih (n / 16) (by omega) (by omega)]
      have hstep := chunkSize_sizeDigit (Nat.mod_lt n (by decide : 0 < 16)) (some (n / 16))
        (by simp only [Option.getD_some]; omega) bytes
      rw [Option.getD_some, Nat.div_add_mod'] at hstep
      exact hstep

/-- The line of a chunk size. -/
theorem chunkSize_line {n : Nat} (hn : n ≤ maxLength) (bytes : List UInt8) :
    sizeAndRest (chunkSize none (encode (sizeText n) ++ 13 :: 10 :: bytes)) = .ok (n, bytes) := by
  rw [chunkSize_sizeText hn]
  rfl

/-- The last chunk ends a body. -/
theorem chunks_of_last {bytes rest : List UInt8}
    (h : sizeAndRest (chunkSize none bytes) = .ok (0, rest)) :
    chunks bytes = (trailers true rest).map ([], ·) := by
  obtain ⟨⟨size, after⟩, hsize, heq⟩ := exists_of_map_ok h
  obtain ⟨rfl, rfl⟩ := Prod.mk.inj heq
  cases bytes with
  | nil => cases hsize
  | cons b more =>
    rw [chunks]
    simp only [hsize]

/-- One byte is read, and no more. -/
theorem exists_of_oneByte (e : BodyError) {b : UInt8} {bytes rest : List UInt8}
    (h : bytes = b :: rest) : ∃ r, oneByte e b bytes = .ok r ∧ r.1 = rest := by
  subst h
  exact ⟨_, if_pos rfl, rfl⟩

/-- A chunk with its two line ends is taken off the front of a body. -/
theorem chunks_of_chunk {bytes data next : List UInt8} (hdata : data ≠ [])
    (h : sizeAndRest (chunkSize none bytes) = .ok (data.length, data ++ 13 :: 10 :: next)) :
    chunks bytes = (chunks next).map fun r => (data ++ r.1, r.2) := by
  obtain ⟨⟨size, after⟩, hsize, heq⟩ := exists_of_map_ok h
  obtain ⟨rfl, hafter⟩ := Prod.mk.inj heq
  obtain ⟨count, hcount⟩ := Nat.exists_eq_succ_of_ne_zero (mt List.length_eq_zero_iff.mp hdata)
  obtain ⟨rest, hle⟩ := after
  obtain rfl : rest = data ++ 13 :: 10 :: next := hafter
  cases bytes with
  | nil => cases hsize
  | cons b more =>
    rw [chunks]
    have hdrop : (data ++ 13 :: 10 :: next).drop (count + 1) = 13 :: 10 :: next := by
      rw [← Nat.succ_eq_add_one, ← hcount, List.drop_left]
    have htake : (data ++ 13 :: 10 :: next).take (count + 1) = data := by
      rw [← Nat.succ_eq_add_one, ← hcount, List.take_left]
    obtain ⟨afterReturn, hreturn, hrest⟩ := exists_of_oneByte .chunkReturn hdrop
    obtain ⟨afterFeed, hfeed, hnext⟩ := exists_of_oneByte .chunkLineFeed hrest
    have hlong : ¬ (data ++ 13 :: 10 :: next).length < count + 1 := by
      rw [List.length_append, hcount]
      omega
    simp only [hsize, hcount, hreturn, hfeed, htake, hnext]
    exact if_neg hlong

/-- A body that is written in one chunk is read back, up to what follows it. -/
theorem chunks_inOneChunk {body : List UInt8} (hne : body ≠ []) (hlength : body.length ≤ maxLength)
    (rest : List UInt8) : chunks (inOneChunk body ++ rest) = .ok (body, rest) := by
  have hshape : inOneChunk body ++ rest = encode (sizeText body.length)
      ++ 13 :: 10 :: (body ++ 13 :: 10 :: 48 :: 13 :: 10 :: 13 :: 10 :: rest) := by
    simp [inOneChunk]
  have hlast : chunks (48 :: 13 :: 10 :: 13 :: 10 :: rest) = .ok ([], rest) :=
    (chunks_of_last (chunkSize_line (Nat.zero_le _) _)).trans rfl
  rw [hshape, chunks_of_chunk hne (chunkSize_line hlength _), hlast]
  simp [Except.map]

/-! ## Lengths -/

/-- Visible ASCII is read back from its bytes. -/
theorem asciiValue?_encode {s : List Char} (h : ∀ c ∈ s, 32 ≤ c.toNat ∧ c.toNat < 127) :
    asciiValue? (encode s) = some s := by
  have hbyte : ∀ c ∈ s, (UInt8.ofNat c.toNat).toNat = c.toNat := fun c hc =>
    Text.Utf8.toNat_ofNat (Nat.lt_trans (h c hc).2 (by decide))
  rw [encode_ascii fun c hc => Nat.lt_succ_of_lt (h c hc).2, asciiValue?, if_pos, List.map_map]
  · congr 1
    refine (List.map_congr_left fun c hc => ?_).trans (List.map_id s)
    rw [Function.comp_apply, hbyte c hc, Char.ofNat_toNat, id]
  · rw [List.all_map, List.all_eq_true]
    intro c hc
    simp [hbyte c hc, h c hc]

/-- The digits of a length are read as this length. -/
theorem lengthOf?_decimalText {n : Nat} (hn : n ≤ maxLength) :
    lengthOf? (Text.decimalText n) = some n := by
  have hdigit : ∀ c ∈ Text.decimalText n, Text.isDigit c = true := fun c hc =>
    Json.isDigit_of_mem_decimalText hc
  have hblank : ∀ c ∈ Text.decimalText n, Text.isBlank c = false := by
    intro c hc
    refine Bool.eq_false_iff.mpr fun h => ?_
    exact absurd ((hdigit c hc).symm.trans (Text.isDigit_of_isBlank h)) (by decide)
  have htrim : Text.trim (Text.decimalText n) = Text.decimalText n := Text.trim_of_not_blank hblank
  have hempty : (Text.decimalText n).isEmpty = false :=
    List.isEmpty_eq_false_iff.mpr Nat.toDigits_ne_nil
  have hvalue : Text.decimalValue (Text.decimalText n) = n := Nat.ofDigitChars_ten_toDigits
  unfold lengthOf?
  simp only [htrim]
  rw [hempty, List.all_eq_true.mpr hdigit, hvalue, if_neg (by decide), if_neg (Nat.not_lt.mpr hn)]

/-- A length that is written is agreed on. -/
theorem agreedLength?_decimalText {n : Nat} (hn : n ≤ maxLength) :
    agreedLength? [encode (Text.decimalText n)] = some n := by
  have hdigit : ∀ c ∈ Text.decimalText n, 48 ≤ c.toNat ∧ c.toNat ≤ 57 := fun c hc =>
    Char.isDigit_iff_toNat.mp (Json.isDigit_of_mem_decimalText hc)
  have hascii : asciiValue? (encode (Text.decimalText n)) = some (Text.decimalText n) :=
    asciiValue?_encode fun c hc => ⟨by have := hdigit c hc; omega, by have := hdigit c hc; omega⟩
  have hcomma : ',' ∉ Text.decimalText n := by
    intro hc
    exact absurd (hdigit _ hc) (by decide)
  have hfields : Text.fields (· == ',') (Text.decimalText n) = [Text.decimalText n] :=
    Text.fields_of_notMem hcomma
  simp only [agreedLength?, List.mapM_cons, List.mapM_nil, hascii, hfields,
    lengthOf?_decimalText hn, Option.bind_eq_bind, Option.bind_some, List.flatMap_cons,
    List.flatMap_nil, List.append_nil, Option.pure_def]
  rfl

/-! ## What becomes of the headers -/

section

variable {m : HeaderMap} {body : List UInt8} {f : Framed}

/-- The ways to delimit a body: there is none, it goes out in chunks, it is cut to the length that
is agreed on, or it gets its own length. -/
theorem framed_cases (h : framed m body = some f) :
    (body = [] ∧ f = { headers := m.swapErase "transfer-encoding" }) ∨
    (∃ (encodings : List (List UInt8)) (headers : HeaderMap),
      m.get? "transfer-encoding" = some encodings ∧ body ≠ [] ∧
      (headers = m.insert "transfer-encoding" (endedInChunks encodings) ∨
        headers = OrderedMap.swapErase (m.insert "transfer-encoding" (endedInChunks encodings))
          "content-length") ∧
      f = { headers, content := body, inChunks := true }) ∨
    (∃ n, m.get? "transfer-encoding" = none ∧
      agreedLength? (m.valuesOf "content-length") = some n ∧
      f = { headers := m, content := body.take n }) ∨
    (m.get? "transfer-encoding" = none ∧ agreedLength? (m.valuesOf "content-length") = none ∧
      f = { headers := m.insert "content-length" [encode (Text.decimalText body.length)]
            content := body }) := by
  unfold framed at h
  split at h
  next hempty =>
    cases h
    exact Or.inl ⟨List.isEmpty_iff.mp hempty, rfl⟩
  next hbody =>
    have hne : body ≠ [] := fun h => hbody (List.isEmpty_iff.mpr h)
    split at h
    next => cases h
    next =>
      dsimp only at h
      split at h
      next length encodings hencodings =>
        cases h
        -- a length beside encodings is taken out only if it is one
        refine Or.inr (Or.inl ⟨encodings, _, hencodings, hne, ?_, rfl⟩)
        split
        · exact Or.inr rfl
        · exact Or.inl rfl
      next n hnone hn =>
        cases h
        exact Or.inr (Or.inr (Or.inl ⟨n, hnone, hn, rfl⟩))
      next hnone hn =>
        cases h
        exact Or.inr (Or.inr (Or.inr ⟨hnone, hn, rfl⟩))

/-- Where there is room, every body can be delimited. -/
theorem exists_framed (h : m.isFull = false) (body : List UInt8) :
    ∃ f, framed m body = some f := by
  unfold framed
  rw [h, if_neg Bool.false_ne_true]
  split
  · exact ⟨_, rfl⟩
  · dsimp only
    split <;> exact ⟨_, rfl⟩

/-- Completed encodings end in that of chunks. -/
theorem endsInChunks_endedInChunks (encodings : List (List UInt8)) :
    EndsInChunks (endedInChunks encodings) := by
  unfold endedInChunks
  split
  next h => exact Or.inl h
  next => exact Or.inr ⟨_, List.getLast?_concat⟩

theorem endedInChunks_ne_nil {encodings : List (List UInt8)} (hne : encodings ≠ []) :
    endedInChunks encodings ≠ [] := by
  unfold endedInChunks
  split
  next => exact hne
  next => simp

/-- With encodings that end in chunks, a body goes out in chunks. -/
theorem Delimits.of_encodings {fs : List Field} {payload : List UInt8}
    {encodings : List (List UInt8)} (hvalues : valuesOf "transfer-encoding" fs = encodings)
    (hne : encodings ≠ []) (hends : EndsInChunks encodings)
    (hread : chunks payload = .ok (body, [])) : Delimits fs body payload := by
  subst hvalues
  exact ⟨fun _ => ⟨hends, hread⟩, fun hnil => absurd hnil hne, fun hnil => absurd hnil hne⟩

/-- Without encodings, a body is cut to the length that is agreed on. -/
theorem Delimits.of_length {fs : List Field} {n : Nat}
    (hvalues : valuesOf "transfer-encoding" fs = [])
    (hn : agreedLength? (valuesOf "content-length" fs) = some n) :
    Delimits fs body (body.take n) := by
  refine ⟨fun hsome => absurd hvalues hsome, ?_, ?_⟩
  · intro _ n' hn'
    rw [Option.some.inj (hn.symm.trans hn')]
  · intro _ hnone
    rw [hn] at hnone
    cases hnone

/-- What is written behind the empty line is what the fields announce. -/
theorem delimits_framed (h : framed m body = some f) (hne : ∀ name, m.get? name ≠ some [])
    (hlength : body.length ≤ maxLength) :
    Delimits f.headers.fields body (if f.inChunks then inOneChunk f.content else f.content) := by
  have hnone : m.get? "transfer-encoding" = none → m.valuesOf "transfer-encoding" = [] :=
    fun h => by rw [HeaderMap.valuesOf, h]; rfl
  rcases framed_cases h with ⟨rfl, rfl⟩ | ⟨encodings, headers, hencodings, hbody, hheaders, rfl⟩ |
    ⟨n, hget, hn, rfl⟩ | ⟨hget, hn, rfl⟩
  · -- no body, and no encoding that would announce one
    have hvalues : valuesOf "transfer-encoding"
        (HeaderMap.fields (m.swapErase "transfer-encoding")) = [] := by
      rw [HeaderMap.valuesOf_fields, HeaderMap.valuesOf_swapErase, if_pos rfl]
    exact ⟨fun hsome => absurd hvalues hsome, fun _ n _ => List.take_nil.symm,
      fun _ _ => ⟨rfl, rfl⟩⟩
  · have hvalues : valuesOf "transfer-encoding" headers.fields = endedInChunks encodings := by
      rw [HeaderMap.valuesOf_fields]
      rcases hheaders with rfl | rfl
      · rw [HeaderMap.valuesOf_insert, if_pos rfl]
      · rw [HeaderMap.valuesOf_swapErase, if_neg (by decide), HeaderMap.valuesOf_insert, if_pos rfl]
    have hencoded : endedInChunks encodings ≠ [] :=
      endedInChunks_ne_nil (HeaderMap.ne_nil_of_get? hne hencodings)
    have hread := chunks_inOneChunk hbody hlength []
    rw [List.append_nil] at hread
    exact .of_encodings hvalues hencoded (endsInChunks_endedInChunks encodings) hread
  · refine Delimits.of_length ?_ ?_
    · rw [HeaderMap.valuesOf_fields, hnone hget]
    · rw [HeaderMap.valuesOf_fields, hn]
  · -- the length is that of the whole body, which is agreed on as it is the only one
    have hown : Delimits (HeaderMap.fields
        (m.insert "content-length" [encode (Text.decimalText body.length)])) body
          (body.take body.length) := by
      refine Delimits.of_length ?_ ?_
      · rw [HeaderMap.valuesOf_fields, HeaderMap.valuesOf_insert, if_neg (by decide), hnone hget]
      · rw [HeaderMap.valuesOf_fields, HeaderMap.valuesOf_insert, if_pos rfl]
        exact agreedLength?_decimalText hlength
    rwa [List.take_length] at hown

/-- Only what says how the body is delimited changes. -/
theorem valuesOf_framed (h : framed m body = some f) {name : String}
    (hencoding : name ≠ "transfer-encoding") (hlength : name ≠ "content-length") :
    f.headers.valuesOf name = m.valuesOf name := by
  rcases framed_cases h with ⟨rfl, rfl⟩ | ⟨encodings, headers, -, -, rfl | rfl, rfl⟩ |
    ⟨n, -, -, rfl⟩ | ⟨-, -, rfl⟩
  · rw [HeaderMap.valuesOf_swapErase, if_neg hencoding.symm]
  · rw [HeaderMap.valuesOf_insert, if_neg hencoding.symm]
  · rw [HeaderMap.valuesOf_swapErase, if_neg hlength.symm, HeaderMap.valuesOf_insert,
      if_neg hencoding.symm]
  · rfl
  · rw [HeaderMap.valuesOf_insert, if_neg hlength.symm]

/-- Completing encodings adds none. -/
theorem length_endedInChunks {encodings : List (List UInt8)} (hne : encodings ≠ []) :
    (endedInChunks encodings).length = encodings.length := by
  unfold endedInChunks
  split
  next => rfl
  next =>
    have hpos : 0 < encodings.length := List.length_pos_iff.mpr hne
    rw [List.length_append, List.length_dropLast, List.length_singleton]
    omega

/-- No encoding is added, and no second length. -/
theorem length_valuesOf_framed_le (h : framed m body = some f)
    (hne : ∀ name, m.get? name ≠ some []) :
    (f.headers.valuesOf "transfer-encoding").length
        ≤ (m.valuesOf "transfer-encoding").length ∧
      (f.headers.valuesOf "content-length").length
        ≤ max 1 (m.valuesOf "content-length").length := by
  rcases framed_cases h with ⟨rfl, rfl⟩ | ⟨encodings, headers, hencodings, -, hheaders, rfl⟩ |
    ⟨n, -, -, rfl⟩ | ⟨-, -, rfl⟩
  · simp only [HeaderMap.valuesOf_swapErase]
    exact ⟨Nat.zero_le _, Nat.le_max_right _ _⟩
  · have hlength : (endedInChunks encodings).length = encodings.length :=
      length_endedInChunks (HeaderMap.ne_nil_of_get? hne hencodings)
    rcases hheaders with rfl | rfl
    · simp only [HeaderMap.valuesOf_insert, HeaderMap.valuesOf_of_get? hencodings]
      exact ⟨Nat.le_of_eq hlength, Nat.le_max_right _ _⟩
    · simp only [HeaderMap.valuesOf_swapErase, HeaderMap.valuesOf_insert,
        HeaderMap.valuesOf_of_get? hencodings]
      exact ⟨Nat.le_of_eq hlength, Nat.zero_le _⟩
  · exact ⟨Nat.le_refl _, Nat.le_max_right _ _⟩
  · simp only [HeaderMap.valuesOf_insert]
    exact ⟨Nat.le_refl _, Nat.le_max_left _ _⟩

/-- One field more at most, that of the length. -/
theorem length_fields_framed_le (h : framed m body = some f)
    (hne : ∀ name, m.get? name ≠ some []) : f.headers.fields.length ≤ m.fields.length + 1 := by
  rcases framed_cases h with ⟨rfl, rfl⟩ | ⟨encodings, headers, hencodings, -, hheaders, rfl⟩ |
    ⟨n, -, -, rfl⟩ | ⟨-, -, rfl⟩
  · exact Nat.le_succ_of_le (HeaderMap.length_fields_swapErase_le m _)
  · have hinsert := HeaderMap.length_fields_insert m "transfer-encoding" (endedInChunks encodings)
    rw [HeaderMap.valuesOf_of_get? hencodings,
      length_endedInChunks (HeaderMap.ne_nil_of_get? hne hencodings)] at hinsert
    have herase := HeaderMap.length_fields_swapErase_le
      (m.insert "transfer-encoding" (endedInChunks encodings)) "content-length"
    rcases hheaders with rfl | rfl
    · dsimp only
      omega
    · dsimp only
      omega
  · exact Nat.le_succ _
  · have hinsert := HeaderMap.length_fields_insert m "content-length"
      [encode (Text.decimalText body.length)]
    rw [List.length_singleton] at hinsert
    dsimp only
    omega

/-- Completed encodings have what the given ones have, if completing one keeps it. -/
theorem forall_mem_endedInChunks {p : List UInt8 → Prop} {encodings : List (List UInt8)}
    (hp : ∀ value ∈ encodings, p value)
    (hended : ∀ last, last = [] ∨ p last → p (last ++ encode ", chunked".toList)) :
    ∀ value ∈ endedInChunks encodings, p value := by
  unfold endedInChunks
  split
  next => exact hp
  next =>
    refine List.forall_mem_append.mpr ⟨?_, List.forall_mem_singleton.mpr (hended _ ?_)⟩
    · exact fun value hvalue => hp value (List.dropLast_subset _ hvalue)
    · cases hlast : encodings.getLast? with
      | none => exact Or.inl rfl
      | some last => exact Or.inr (hp last (List.mem_of_getLast? hlast))

/-- What all headers have in common, all fields that are written have, if encodings that are
completed and the length of the body have it. -/
theorem all_framed (h : framed m body = some f) {p : String → List UInt8 → Prop} (hm : m.All p)
    (hended : ∀ last, last = [] ∨ p "transfer-encoding" last →
      p "transfer-encoding" (last ++ encode ", chunked".toList))
    (hlength : p "content-length" (encode (Text.decimalText body.length))) : f.headers.All p := by
  rcases framed_cases h with ⟨rfl, rfl⟩ | ⟨encodings, headers, hencodings, -, hheaders, rfl⟩ |
    ⟨n, -, -, rfl⟩ | ⟨-, -, rfl⟩
  · exact hm.swapErase _
  · have hencoded : ∀ value ∈ encodings, p "transfer-encoding" value := by
      rw [← HeaderMap.valuesOf_of_get? hencodings]
      exact hm _
    have hchunked := hm.insert (forall_mem_endedInChunks hencoded hended)
    rcases hheaders with rfl | rfl
    · exact hchunked
    · exact hchunked.swapErase _
  · exact hm
  · exact hm.insert (List.forall_mem_singleton.mpr hlength)

end

end CallBook.Http
