import CallBook.Proofs.Answers
import CallBook.Url.Parser

/-!
# The authority of a URL that was read

What is read is written out again in one way, so that some characters cannot stand in some parts. A
colon is encoded in a user name and in a password (`notMem_encodeText`), an IPv4 address fits into
four bytes (`ipv4?_lt`), and behind an authority the path is one of segments. `Authority.Canonical`
holds together what is known of an authority; each stage of the reading that gives one gives a
canonical one.

Main result: `canonical_of_parse`.
-/

namespace CallBook

open Text

/-- The credentials hold no colon, and an IPv4 address has four bytes. -/
structure Authority.Canonical (a : Authority) : Prop where
  user : ':' ∉ a.user.toList
  password : ':' ∉ a.password.toList
  host : ∀ address, a.host = .ipv4 address → address < 0x100000000

/-- A canonical authority has a path of segments behind it. -/
def Url.Canonical (u : Url) : Prop :=
  ∀ a, u.authority = some a → a.Canonical ∧ ∃ segments, u.path = .rooted segments

namespace Url

/-! ## Encoded texts -/

theorem isHexDigit_of_mem_percentByte {b : UInt8} {c : Char} (hc : c ∈ percentByte b) :
    c = '%' ∨ isHexDigit c = true := by
  have hall : ∀ n < 16, isHexDigit (upperHexDigit n) = true := by decide
  have hlt : b.toNat < 256 := b.toNat_lt
  rw [percentByte, List.mem_cons, List.mem_cons, List.mem_singleton] at hc
  rcases hc with rfl | rfl | rfl
  · exact .inl rfl
  · exact .inr (hall _ (by omega))
  · exact .inr (hall _ (Nat.mod_lt _ (by decide)))

/-- An encoded character is gone, unless the encoding writes it itself. -/
theorem notMem_encodeText {inSet : Char → Bool} {c : Char} (hin : inSet c = true) (hne : c ≠ '%')
    (hhex : isHexDigit c = false) (s : List Char) : c ∉ encodeText inSet s := by
  intro hc
  obtain ⟨d, -, hd⟩ := List.mem_flatMap.mp hc
  unfold encodeChar at hd
  split at hd
  next =>
    obtain ⟨b, -, hb⟩ := List.mem_flatMap.mp hd
    rcases isHexDigit_of_mem_percentByte hb with heq | hdigit
    · exact hne heq
    · rw [hhex] at hdigit
      cases hdigit
  next hout =>
    rw [List.mem_singleton.mp hd] at hin
    exact hout hin

/-! ## IPv4 -/

/-- As many items are given as were read. -/
theorem length_of_mapM_eq_some {α β : Type} {f : α → Option β} {xs : List α} {ys : List β}
    (h : xs.mapM f = some ys) : ys.length = xs.length := by
  induction xs generalizing ys with
  | nil =>
    cases h
    rfl
  | cons x xs ih =>
    rw [List.mapM_cons] at h
    obtain ⟨y, -, h⟩ := Option.bind_eq_some_iff.mp h
    obtain ⟨more, hmore, h⟩ := Option.bind_eq_some_iff.mp h
    cases h
    rw [List.length_cons, List.length_cons, ih hmore]

/-- Parts for `left` bytes name a number of that many bytes. -/
theorem ipv4Value?_lt {left : Nat} {parts : List Nat} {address : Nat}
    (hlen : parts.length ≤ left) (h : ipv4Value? left parts = some address) :
    address < Nat.pow 256 left := by
  induction parts generalizing left address with
  | nil => cases h
  | cons byte more ih =>
    cases more with
    | nil =>
      rw [ipv4Value?] at h
      split at h
      next hlt =>
        cases h
        exact hlt
      next => cases h
    | cons second more =>
      rw [ipv4Value?] at h
      split at h
      next hbyte =>
        obtain ⟨value, hvalue, rfl⟩ := Option.map_eq_some_iff.mp h
        cases left with
        | zero => cases hlen
        | succ left =>
          have hlt : value < Nat.pow 256 left := ih (Nat.le_of_succ_le_succ hlen) hvalue
          calc byte * Nat.pow 256 left + value
              < byte * Nat.pow 256 left + Nat.pow 256 left := Nat.add_lt_add_left hlt _
            _ = (byte + 1) * Nat.pow 256 left := (Nat.succ_mul byte _).symm
            _ ≤ 256 * Nat.pow 256 left := Nat.mul_le_mul_right _ hbyte
            _ = Nat.pow 256 (left + 1) := Nat.mul_comm _ _
      next => cases h
      -- a list of two parts is not one of a single part
      all_goals simp

/-- An IPv4 address has 32 bits. -/
theorem ipv4?_lt {host : List Char} {address : Nat} (h : ipv4? host = some address) :
    address < 0x100000000 := by
  unfold ipv4? at h
  dsimp only at h
  split at h
  next => cases h
  next hfew =>
    obtain ⟨parts, hparts, hvalue⟩ := Option.bind_eq_some_iff.mp h
    have hlen : parts.length ≤ 4 := by
      rw [length_of_mapM_eq_some hparts]
      exact Nat.le_of_not_lt hfew
    exact ipv4Value?_lt hlen hvalue

/-! ## Host and authority -/

/-- A host in brackets is an IPv6 address. -/
theorem bracketed_ok {s : List Char} {host : Host} (h : bracketed s = .ok host) :
    ∃ pieces, host = .ipv6 pieces := by
  unfold bracketed at h
  split at h
  next =>
    split at h
    next pieces _ =>
      cases h
      exact ⟨pieces, rfl⟩
    next => cases h
  next => cases h

/-- The address that a special host is has 32 bits. -/
theorem specialHost_lt {s : List Char} {address : Nat} (h : specialHost s = .ok (.ipv4 address)) :
    address < 0x100000000 := by
  unfold specialHost at h
  split at h
  next =>
    obtain ⟨pieces, hp⟩ := bracketed_ok h
    cases hp
  next =>
    split at h
    next => cases h
    next => cases h
    next =>
      split at h
      next =>
        split at h
        next hread =>
          cases h
          exact ipv4?_lt hread
        next => cases h
      next => cases h

/-- A host of a scheme without addresses is none. -/
theorem plainHost_ne {s : List Char} {address : Nat} : plainHost s ≠ .ok (.ipv4 address) := by
  intro h
  unfold plainHost at h
  split at h
  next =>
    obtain ⟨pieces, hp⟩ := bracketed_ok h
    cases hp
  next => cases h
  next =>
    split at h
    next => cases h
    next => cases h

/-- The host is that of the text in front of the port. -/
theorem hostAndPort_host {scheme : String} {special bare : Bool} {s : List Char} {host : Host}
    {port : Option Nat} (h : hostAndPort scheme special bare s = .ok (host, port)) :
    (if special then specialHost else plainHost) (s.take (hostLength false s)) = .ok host := by
  unfold hostAndPort at h
  dsimp only at h
  split at h
  next => cases h
  next =>
    split
    all_goals
      next hs =>
      simp only [hs, ↓reduceIte] at h
      obtain ⟨found, hfound, h⟩ := exists_of_bind_ok h
      rw [hfound]
      -- a port, if there is one, only adds a reason to refuse
      split at h
      all_goals
        obtain ⟨_, _, h⟩ := exists_of_bind_ok h
        split at h
        · cases h
        · cases h
          rfl

/-- The address before a port has 32 bits. -/
theorem hostAndPort_lt {scheme : String} {special bare : Bool} {s : List Char} {address : Nat}
    {port : Option Nat} (h : hostAndPort scheme special bare s = .ok (.ipv4 address, port)) :
    address < 0x100000000 := by
  have hhost := hostAndPort_host h
  split at hhost
  next => exact specialHost_lt hhost
  next => exact absurd hhost plainHost_ne

/-- A colon separates user and password, and neither has one of its own. -/
theorem colon_notMem_credentials (s : List Char) :
    ':' ∉ (credentials s).1.toList ∧ ':' ∉ (credentials s).2.toList := by
  have hpart : ∀ part, ':' ∉ (String.ofList (encodeText inUserSet part)).toList := by
    intro part
    rw [String.toList_ofList]
    exact notMem_encodeText rfl (by decide) rfl part
  unfold credentials
  split
  next => exact ⟨hpart _, by simp⟩
  next => exact ⟨hpart _, hpart _⟩

/-- An authority that was read is canonical. -/
theorem readAuthority_canonical {scheme : String} {special : Bool} {s rest : List Char}
    {a : Authority} (h : readAuthority scheme special s = .ok (a, rest)) : a.Canonical := by
  unfold readAuthority at h
  dsimp only at h
  split at h
  next => cases h
  next =>
    obtain ⟨⟨host, port⟩, hhost, h⟩ := exists_of_bind_ok h
    cases h
    refine ⟨(colon_notMem_credentials _).1, (colon_notMem_credentials _).2, ?_⟩
    rintro address rfl
    exact hostAndPort_lt hhost

/-! ## URL -/

/-- A URL that is put together is canonical if its authority is, and its path rooted. -/
theorem canonical_assemble {scheme : String} {authority : Option Authority} {path : Path}
    {marks : List Char} (ha : ∀ a, authority = some a → a.Canonical)
    (hp : authority.isSome = true → ∃ segments, path = .rooted segments) :
    (assemble scheme authority path marks).Canonical := by
  intro a hsome
  have hauthority : authority = some a := hsome
  exact ⟨ha a hauthority, hp (by rw [hauthority]; rfl)⟩

theorem readPath_rooted (special : Bool) (path : List Char) :
    ∃ segments, readPath special path = .rooted segments := by
  unfold readPath
  split
  next =>
    split
    next => exact ⟨_, rfl⟩
    next => exact ⟨_, rfl⟩
  next => exact ⟨_, rfl⟩

/-- What is read behind two slashes is canonical. -/
theorem readAfterSlashes_canonical {scheme : String} {special : Bool} {s : List Char} {u : Url}
    (h : readAfterSlashes scheme special s = .ok u) : u.Canonical := by
  obtain ⟨⟨a, rest⟩, ha, h⟩ := exists_of_bind_ok h
  cases h
  refine canonical_assemble ?_ fun _ => readPath_rooted special _
  intro b hb
  cases hb
  exact readAuthority_canonical ha

/-- What is read without two slashes is canonical. -/
theorem readPlain_canonical {scheme : String} {s : List Char} {u : Url}
    (h : readPlain scheme s = .ok u) : u.Canonical := by
  unfold readPlain at h
  split at h
  next => exact readAfterSlashes_canonical h
  next =>
    cases h
    exact canonical_assemble (by simp) (by simp)
  next =>
    cases h
    exact canonical_assemble (by simp) (by simp)

/-- The URL of a file is canonical if the address of its host has 32 bits. -/
theorem fileUrl_canonical {host : Host}
    (h : ∀ address, host = .ipv4 address → address < 0x100000000) (s : List Char) :
    (fileUrl host s).Canonical := by
  refine canonical_assemble ?_ fun _ => ⟨_, rfl⟩
  intro a ha
  cases ha
  refine ⟨by simp, by simp, ?_⟩
  intro address haddress
  have hhost : ∀ drive : Bool,
      (if drive = true then Host.empty else host) = .ipv4 address → host = .ipv4 address := by
    intro drive hdrive
    cases drive with
    | true => cases hdrive
    | false => exact hdrive
  exact h address (hhost _ haddress)

/-- The address that the host of a file is has 32 bits. -/
theorem fileHost_lt {s : List Char} {address : Nat} (h : fileHost s = .ok (.ipv4 address)) :
    address < 0x100000000 := by
  unfold fileHost at h
  split at h
  next => cases h
  next =>
    obtain ⟨host, hhost, h⟩ := exists_of_map_ok h
    split at h
    next => cases h
    next =>
      rw [h] at hhost
      exact specialHost_lt hhost

/-- The URL of a file that was read is canonical. -/
theorem readFile_canonical {s : List Char} {u : Url} (h : readFile s = .ok u) : u.Canonical := by
  have hempty : ∀ address, Host.empty = .ipv4 address → address < 0x100000000 := by
    intro address haddress
    cases haddress
  unfold readFile at h
  split at h
  next =>
    split at h
    next =>
      dsimp only at h
      split at h
      next =>
        cases h
        exact fileUrl_canonical hempty _
      next =>
        obtain ⟨host, hhost, h⟩ := exists_of_bind_ok h
        cases h
        refine fileUrl_canonical ?_ _
        rintro address rfl
        exact fileHost_lt hhost
    next =>
      cases h
      exact fileUrl_canonical hempty _
  next =>
    cases h
    exact fileUrl_canonical hempty _

/-- The authority of a URL that was read is canonical. -/
theorem canonical_of_parse {text : String} {u : Url} (h : parse text = .ok u) : u.Canonical := by
  unfold parse at h
  split at h
  next => cases h
  next =>
    dsimp only at h
    split at h
    next => exact readFile_canonical h
    next =>
      split at h
      next => exact readAfterSlashes_canonical h
      next => exact readPlain_canonical h

end Url

end CallBook
