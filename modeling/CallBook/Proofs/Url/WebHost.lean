import CallBook.Proofs.Answers
import CallBook.Proofs.Url.Address
import CallBook.Proofs.Url.Parser
import Mathlib.Data.Bool.AllAny

/-!
# The host of a web address

A request names the host it is for. The host of an `http` or `https` address is read by the rules
for special schemes, so that it is an address in digits or a domain name, and a domain name goes out
in ASCII: its labels as they are if they are in ASCII, and in Punycode otherwise. None of the ways
to write a host brings in a control or a space (`Domain.visible_of_toAscii?`, `visible_ipv4Text`,
`visible_ipv6Text`).

Main result: `visible_host_of_parse`.
-/

namespace CallBook.Url

open Text

/-- An ASCII character that is neither a control nor a space. -/
def Visible (c : Char) : Prop := 32 < c.toNat ∧ c.toNat < 127

instance (c : Char) : Decidable (Visible c) := inferInstanceAs (Decidable (_ ∧ _))

/-! ## Punycode -/

namespace Punycode

/-- The digits of an encoded label are letters and numerals. -/
theorem visible_digit {n : Nat} (h : n < 36) : Visible (digit n) := by
  have hall : ∀ n < 36, Visible (digit n) := by decide
  exact hall n h

theorem visible_number {bias k q : Nat} : ∀ c ∈ number bias k q, Visible c := by
  fun_induction number bias k q with
  | case1 k q t hlt =>
    have hle : t ≤ 26 := threshold_le k bias
    intro c hc
    rw [List.mem_singleton.mp hc]
    exact visible_digit (by omega)
  | case2 k q t hge ih =>
    have hle : t ≤ 26 := threshold_le k bias
    have hmod : (q - t) % (36 - t) < 36 - t := Nat.mod_lt _ (by omega)
    intro c hc
    rcases List.mem_cons.mp hc with rfl | hmore
    · exact visible_digit (by omega)
    · exact ih c hmore

/-- What is written for one code point is visible. -/
theorem visible_writePoint {m basic delta bias count : Nat} {points : List Nat} :
    ∀ c ∈ (writePoint m basic delta bias count points).1, Visible c := by
  fun_induction writePoint m basic delta bias count points with
  | case1 => exact fun c hc => nomatch hc
  | case2 _ _ _ _ _ _ ih => exact ih
  | case3 delta bias count rest out after heq _ ih =>
    rw [heq] at ih
    intro c hc
    rcases List.mem_append.mp hc with hnumber | hout
    · exact visible_number c hnumber
    · exact ih c hout
  | case4 _ _ _ _ _ _ _ ih => exact ih

/-- What is written for all code points beyond ASCII is visible. -/
theorem visible_writeFrom {points : List Nat} {basic fuel n delta bias count : Nat} :
    ∀ c ∈ writeFrom points basic fuel n delta bias count, Visible c := by
  fun_induction writeFrom points basic fuel n delta bias count with
  | case1 => exact fun c hc => nomatch hc
  | case2 => exact fun c hc => nomatch hc
  | case3 fuel n delta bias count m _ out _ _ _ heq ih =>
    have hout := congrArg Prod.fst heq ▸ visible_writePoint
    intro c hc
    rcases List.mem_append.mp hc with hpoint | hmore
    · exact hout c hpoint
    · exact ih c hmore

/-- An encoded label is visible if its ASCII characters are. -/
theorem visible_encode {label : List Char} (h : ∀ c ∈ label, c.toNat < 128 → Visible c) :
    ∀ c ∈ encode label, Visible c := by
  intro c hc
  rcases List.mem_append.mp hc with hbasic | hdigits
  · split at hbasic
    next => cases hbasic
    next =>
      rcases List.mem_append.mp hbasic with hlabel | hhyphen
      · obtain ⟨hmem, hascii⟩ := List.mem_filter.mp hlabel
        exact h c hmem (of_decide_eq_true hascii)
      · rw [List.mem_singleton.mp hhyphen]
        decide
  · exact visible_writeFrom c hdigits

end Punycode

/-! ## Hosts -/

/-- What is joined from visible parts with visible separators is visible. -/
theorem visible_joinFields {sep : List Char} {fields : List (List Char)}
    (hsep : ∀ c ∈ sep, Visible c) (h : ∀ field ∈ fields, ∀ c ∈ field, Visible c) :
    ∀ c ∈ joinFields sep fields, Visible c := by
  have hsub : joinFields sep fields ⊆ sep ++ fields.flatten := by
    refine joinFields_subset (List.subset_append_left ..) ?_
    intro field hfield
    exact List.subset_append_of_subset_right _ fun c hc => List.mem_flatten_of_mem hfield hc
  intro c hc
  rcases List.mem_append.mp (hsub hc) with hc | hc
  · exact hsep c hc
  · obtain ⟨field, hfield, hc⟩ := List.mem_flatten.mp hc
    exact h field hfield c hc

theorem Domain.visible_encodedMark : ∀ c ∈ encodedMark, Visible c :=
  List.all_iff_forall_prop.mp (by decide)

/-- A label that holds no character of the syntax is looked up under one that holds none either. -/
theorem Domain.visible_labelText {label : List Char} (h : label.any isDenied = false) :
    ∀ c ∈ labelText label, Visible c := by
  have hlabel : ∀ c ∈ label, c.toNat < 128 → Visible c := by
    intro c hc hascii
    have hfree := List.any_eq_false.mp h c hc
    simp only [isDenied, Bool.or_eq_true, decide_eq_true_eq, not_or] at hfree
    exact ⟨Nat.lt_of_not_le hfree.1.1, by omega⟩
  unfold labelText
  split
  next hascii =>
    intro c hc
    exact hlabel c hc (of_decide_eq_true (List.all_eq_true.mp hascii c hc))
  next =>
    intro c hc
    rcases List.mem_append.mp hc with hmark | hencoded
    · exact visible_encodedMark c hmark
    · exact Punycode.visible_encode hlabel c hencoded

/-- A domain in ASCII form is visible. -/
theorem Domain.visible_of_toAscii? {bytes : List UInt8} {domain : List Char}
    (h : toAscii? bytes = some domain) : ∀ c ∈ domain, Visible c := by
  unfold toAscii? at h
  split at h
  next => cases h
  next =>
    split at h
    next => cases h
    next labels _ =>
      split at h
      next hok =>
        cases h
        rw [Bool.and_eq_true, Bool.not_eq_true', List.any_eq_false] at hok
        refine visible_joinFields (List.all_iff_forall_prop.mp (by decide)) ?_
        intro field hfield
        obtain ⟨label, hlabel, rfl⟩ := List.mem_map.mp hfield
        exact visible_labelText (Bool.eq_false_iff.mpr (hok.2 label hlabel))
      next => cases h

theorem visible_addressDigits : ∀ c ∈ ':' :: '.' :: addressDigits, Visible c :=
  List.all_iff_forall_prop.mp (by decide)

theorem visible_ipv4Text (address : Nat) : ∀ c ∈ ipv4Text address, Visible c := fun c hc =>
  visible_addressDigits c (List.mem_cons_of_mem _ (ipv4Text_subset address hc))

theorem visible_ipv6Text (pieces : List Nat) : ∀ c ∈ ipv6Text pieces, Visible c := by
  intro c hc
  rcases List.mem_cons.mp (ipv6Text_subset pieces hc) with rfl | hdigit
  · decide
  · exact visible_addressDigits c (List.mem_cons_of_mem _ (List.mem_cons_of_mem _ hdigit))

/-- The host of a web address is written with visible characters. -/
theorem visible_specialHost {s : List Char} {host : Host} (h : specialHost s = .ok host) :
    ∀ c ∈ host.text.toList, Visible c := by
  unfold specialHost at h
  split at h
  next =>
    obtain ⟨pieces, rfl⟩ := bracketed_ok h
    intro c hc
    rw [Host.text, String.toList_ofList, List.mem_append, List.mem_cons, List.mem_singleton] at hc
    rcases hc with (rfl | hpiece) | rfl
    · decide
    · exact visible_ipv6Text pieces c hpiece
    · decide
  next =>
    split at h
    next => cases h
    next => cases h
    next hdomain =>
      split at h
      next =>
        split at h
        next address _ =>
          cases h
          rw [Host.text, String.toList_ofList]
          exact visible_ipv4Text address
        next => cases h
      next =>
        cases h
        rw [Host.text, String.toList_ofList]
        exact Domain.visible_of_toAscii? hdomain

theorem visible_decimalText (n : Nat) : ∀ c ∈ decimalText n, Visible c := fun c hc =>
  visible_addressDigits c
    (List.mem_cons_of_mem _ (List.mem_cons_of_mem _ (decimalText_subset n hc)))

theorem visible_portText (a : Authority) : ∀ c ∈ a.portText.toList, Visible c := by
  unfold Authority.portText
  split
  next => exact fun c hc => nomatch hc
  next port _ =>
    intro c hc
    rw [String.toList_append, List.mem_append] at hc
    rcases hc with hcolon | hdigit
    · rw [List.mem_singleton.mp hcolon]
      decide
    · rw [decimal, String.toList_ofList] at hdigit
      exact visible_decimalText port c hdigit

/-! ## URLs -/

/-- The host of an authority is what the reader for its kind of scheme makes of a text. -/
theorem readAuthority_host {scheme : String} {special : Bool} {s rest : List Char} {a : Authority}
    (h : readAuthority scheme special s = .ok (a, rest)) :
    ∃ hostText, (if special then specialHost else plainHost) hostText = .ok a.host := by
  unfold readAuthority at h
  dsimp only at h
  split at h
  next => cases h
  next =>
    obtain ⟨⟨host, port⟩, hhost, h⟩ := exists_of_bind_ok h
    cases h
    exact ⟨_, hostAndPort_host hhost⟩

/-- Behind two slashes there is an authority. -/
theorem readAfterSlashes_ok {scheme : String} {special : Bool} {s : List Char} {u : Url}
    (h : readAfterSlashes scheme special s = .ok u) :
    u.scheme = scheme ∧ ∃ a rest, readAuthority scheme special s = .ok (a, rest) ∧
      u.authority = some a := by
  obtain ⟨⟨a, rest⟩, ha, h⟩ := exists_of_bind_ok h
  cases h
  exact ⟨rfl, a, rest, ha, rfl⟩

/-- A URL without slashes keeps its scheme. -/
theorem scheme_of_readPlain {scheme : String} {s : List Char} {u : Url}
    (h : readPlain scheme s = .ok u) : u.scheme = scheme := by
  unfold readPlain at h
  split at h
  next => exact (readAfterSlashes_ok h).1
  next =>
    cases h
    rfl
  next =>
    cases h
    rfl

theorem scheme_of_readFile {s : List Char} {u : Url} (h : readFile s = .ok u) :
    u.scheme = "file" := by
  unfold readFile at h
  split at h
  next =>
    split at h
    next =>
      dsimp only at h
      split at h
      next =>
        cases h
        rfl
      next =>
        obtain ⟨host, -, h⟩ := exists_of_bind_ok h
        cases h
        rfl
    next =>
      cases h
      rfl
  next =>
    cases h
    rfl

/-- A web address has an authority that was read by the rules for special schemes. -/
theorem readAuthority_of_web {text : String} {u : Url} (h : parse text = .ok u)
    (hweb : u.scheme = "http" ∨ u.scheme = "https") :
    ∃ a s rest, u.authority = some a ∧ readAuthority u.scheme true s = .ok (a, rest) := by
  have hspecial : isSpecialScheme u.scheme = true ∧ u.scheme ≠ "file" := by
    rcases hweb with heq | heq <;> rw [heq] <;> decide
  unfold parse at h
  split at h
  next => cases h
  next =>
    dsimp only at h
    split at h
    next => exact absurd (scheme_of_readFile h) hspecial.2
    next =>
      split at h
      next =>
        obtain ⟨hscheme, a, rest, hread, ha⟩ := readAfterSlashes_ok h
        rw [← hscheme] at hread
        exact ⟨a, _, rest, ha, hread⟩
      next hplain =>
        rw [← scheme_of_readPlain h] at hplain
        exact absurd hspecial.1 hplain

/-- A web address that was read has an authority, and its host is written in ASCII without controls
and spaces. -/
theorem visible_host_of_parse {text : String} {u : Url} (h : parse text = .ok u)
    (hweb : u.scheme = "http" ∨ u.scheme = "https") :
    ∃ a, u.authority = some a ∧ ∀ c ∈ a.host.text.toList, Visible c := by
  obtain ⟨a, s, rest, ha, hread⟩ := readAuthority_of_web h hweb
  obtain ⟨hostText, hhost⟩ := readAuthority_host hread
  exact ⟨a, ha, visible_specialHost hhost⟩

end CallBook.Url
