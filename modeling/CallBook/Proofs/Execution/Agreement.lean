import CallBook.Proofs.Answers
import CallBook.Proofs.Execution.Engine
import CallBook.Proofs.Template.Cut

/-!
# Only named variables matter

What a call is filled in with, and so what is sent for it, depends on those variables alone whose
names stand in its texts. Where a text is cut does not depend on any variable, so two sets of
variables that agree on the names of a text put the same value into every hole
(`fill_eq_of_agree`); with none of the names known the text stays as it is, since this is how an
environment without variables fills it in (`fill_empty`). A map whose keys stay as they are is built
again entry by entry, as no key comes twice in it.

Main result: `Request.resolve_of_agree`.
-/

namespace CallBook.Template

/-! ## One text -/

/-- The names of a text are those of its placeholders. -/
theorem mem_names_iff {text name : String} :
    name ∈ names text ↔ ∃ hole, .hole hole ∈ pieces text.toList ∧ String.ofList hole = name := by
  obtain ⟨d, ⟨ht, hd⟩, -⟩ := existsUnique_leftmost text.toList
  rw [names_of_leftmost ht hd, List.mem_eraseDups, ← Cut.filterMap_name?_pieces, ← ht,
    pieces_text_of_leftmost hd, List.mem_filterMap]
  constructor
  · rintro ⟨piece, hpiece, hname⟩
    cases piece with
    | char c => cases hname
    | hole hole => exact ⟨hole, hpiece, Option.some.inj hname⟩
  · rintro ⟨hole, hhole, rfl⟩
    exact ⟨.hole hole, hhole, rfl⟩

/-- The variables agree on the names in a text: both give a name the same value, or neither gives it
one. -/
def AgreeOn (vars₁ vars₂ : Variables) (text : String) : Prop :=
  ∀ name ∈ names text, vars₁.get? name = vars₂.get? name

/-- Variables that agree on the names of a text fill it alike. -/
theorem fill_eq_of_agree {vars₁ vars₂ : Variables} {text : String}
    (h : AgreeOn vars₁ vars₂ text) : fill vars₁ text = fill vars₂ text := by
  rw [fill_eq_fillPieces, fill_eq_fillPieces, fillPieces, fillPieces]
  refine congrArg String.ofList ?_
  rw [List.flatMap_def, List.flatMap_def]
  refine congrArg List.flatten (List.map_congr_left fun piece hpiece => ?_)
  cases piece with
  | char c => rfl
  | hole hole =>
    have hname : String.ofList hole ∈ names text := mem_names_iff.mpr ⟨hole, hpiece, rfl⟩
    rw [Piece.fill, Piece.fill, h _ hname]

@[simp] theorem fill_empty (text : String) : fill .empty text = text := by
  have hpiece : ∀ piece : Piece, piece.fill .empty = piece.text := by
    intro piece
    cases piece <;> rfl
  rw [fill_eq_fillPieces, fillPieces, funext hpiece, text_pieces, String.ofList_toList]

/-! ## Maps of texts -/

/-- Variables that agree on the names of all texts of a map fill it alike. -/
theorem fillMap_eq_of_agree {vars₁ vars₂ : Variables} {m : OrderedMap String}
    (h : ∀ p ∈ m.entries, AgreeOn vars₁ vars₂ p.1 ∧ AgreeOn vars₁ vars₂ p.2) :
    fillMap vars₁ m = fillMap vars₂ m := by
  refine congrArg OrderedMap.ofList (List.map_congr_left fun p hp => ?_)
  obtain ⟨hkey, hvalue⟩ := h p hp
  rw [fill_eq_of_agree hkey, fill_eq_of_agree hvalue]

/-- Names that become equal are merged, so that filling in adds no entry. -/
theorem size_fillMap_le (vars : Variables) (m : OrderedMap String) :
    (fillMap vars m).size ≤ m.size := by
  have hle := OrderedMap.size_ofList_le (m.entries.map fun p => (fill vars p.1, fill vars p.2))
  rwa [List.length_map] at hle

@[simp] theorem fillMap_empty (m : OrderedMap String) : fillMap .empty m = m := by
  simp [fillMap, OrderedMap.ofList_entries]

end CallBook.Template

namespace CallBook

open Template (AgreeOn)

/-! ## Calls -/

namespace Request

/-- The texts of a call in which placeholders are filled in. -/
def texts (r : Request) : List String :=
  r.url :: (r.headers.entries ++ r.body.entries).flatMap fun p => [p.1, p.2]

/-- The outbound call for a saved one, or why there is none. -/
def prepare (r : Request) (vars : Variables) : Except CallError Outbound :=
  ((r.resolve vars).target? vars).map (r.resolve vars).outbound

/-- A call that goes out goes to the URL that its own one comes to. -/
theorem exists_of_prepare {r : Request} {vars : Variables} {o : Outbound}
    (h : r.prepare vars = .ok o) :
    ∃ url, Url.parse (Text.trimmed (r.resolve vars).url) = .ok url ∧
      o = (r.resolve vars).outbound url := by
  obtain ⟨url, htarget, rfl⟩ := exists_of_map_ok h
  unfold ResolvedRequest.target? at htarget
  dsimp only at htarget
  split at htarget
  next => cases htarget
  next => exact ⟨url, eq_ok_of_mapError htarget, rfl⟩

/-- Variables that agree on the names of all texts of a call resolve it alike. -/
theorem resolve_eq_of_agree {r : Request} {vars₁ vars₂ : Variables}
    (h : ∀ text ∈ r.texts, AgreeOn vars₁ vars₂ text) : r.resolve vars₁ = r.resolve vars₂ := by
  have hentry : ∀ p ∈ r.headers.entries ++ r.body.entries,
      AgreeOn vars₁ vars₂ p.1 ∧ AgreeOn vars₁ vars₂ p.2 := by
    intro p hp
    have hmem : ∀ text ∈ [p.1, p.2], text ∈ r.texts := fun text ht =>
      List.mem_cons_of_mem _ (List.mem_flatMap.mpr ⟨p, hp, ht⟩)
    exact ⟨h _ (hmem _ (by simp)), h _ (hmem _ (by simp))⟩
  have hurl := Template.fill_eq_of_agree (h r.url List.mem_cons_self)
  have hheaders := Template.fillMap_eq_of_agree (m := r.headers)
    fun p hp => hentry p (List.mem_append_left _ hp)
  have hbody := Template.fillMap_eq_of_agree (m := r.body)
    fun p hp => hentry p (List.mem_append_right _ hp)
  rw [resolve, resolve, hurl, hheaders, hbody]

/-- The call as it is saved, taken for a resolved one. -/
def asSaved (r : Request) : ResolvedRequest where
  method := r.method
  url := r.url
  headers := r.headers
  body := r.body

/-- Without variables a call is resolved to what was saved. -/
theorem resolve_empty (r : Request) : r.resolve .empty = r.asSaved := by
  simp [resolve, asSaved]

end Request

/-! ## What comes of a call -/

/-- Two calls came to the same: the same outbound call, the same unusable URL for the same reason,
or the same missing names. Which names are available instead may differ. -/
inductive SameOutcome : Except CallError Outbound → Except CallError Outbound → Prop
  | outbound (call : Outbound) : SameOutcome (.ok call) (.ok call)
  | invalidUrl (text : String) (reason : UrlError) :
      SameOutcome (.error (.invalidUrl text reason)) (.error (.invalidUrl text reason))
  | unresolved (missing available₁ available₂ : List String) :
      SameOutcome (.error (.unresolved missing available₁))
        (.error (.unresolved missing available₂))

/-- Apart from the names that it calls available, the check of a URL sees no variables. -/
theorem sameOutcome_target? (r : ResolvedRequest) (vars₁ vars₂ : Variables) :
    SameOutcome ((r.target? vars₁).map r.outbound) ((r.target? vars₂).map r.outbound) := by
  unfold ResolvedRequest.target?
  cases Template.names r.url with
  | cons name more => exact .unresolved _ _ _
  | nil =>
    cases Url.parse (Text.trimmed r.url) with
    | error reason => exact .invalidUrl _ _
    | ok url => exact .outbound _

/-- What a run asks for and sends is a matter of the resolved call. -/
theorem effects_eq_of_resolve_eq {r : Request} {e₁ e₂ : Environment}
    (h : r.resolve e₁.vars = r.resolve e₂.vars) (select : Selector) (elapsed : Nat) :
    (r.run e₁ select elapsed).effects = (r.run e₂ select elapsed).effects := by
  let a₁ : Attempt := ⟨r, e₁, select, elapsed⟩
  let a₂ : Attempt := ⟨r, e₂, select, elapsed⟩
  have hresolved : a₁.resolved = a₂.resolved := h
  have h₁ := a₁.accounted_run
  have h₂ := a₂.accounted_run
  rcases a₁.refused_or_reaches with hrefused | ⟨url, hreaches⟩
  · have hrefused₂ : a₂.Refused := by
      unfold Attempt.Refused Attempt.LeavesPlaceholder at hrefused ⊢
      rwa [← hresolved]
    exact (h₁.refused hrefused).1.trans (h₂.refused hrefused₂).1.symm
  · have hreaches₂ : a₂.Reaches url := by
      unfold Attempt.Reaches Attempt.LeavesPlaceholder at hreaches ⊢
      rwa [← hresolved]
    cases hselect : select url with
    | error e =>
      exact (h₁.unselected url e hreaches hselect).1.trans
        (h₂.unselected url e hreaches₂ hselect).1.symm
    | ok send =>
      have hsent := (h₁.sent url send hreaches hselect).1
      rw [hresolved] at hsent
      exact hsent.trans (h₂.sent url send hreaches₂ hselect).1.symm

/-- **Only named variables matter.** Two environments that agree on the names in the URL, in the
names and values of headers and in those of fields resolve a call to the same, so that preparing it
comes to the same and a run asks for and sends the same. An environment that knows none of these
names leaves URL, headers and fields as they are saved, in their order. -/
theorem Request.resolve_of_agree (r : Request) :
    (∀ e₁ e₂ : Environment, (∀ text ∈ r.texts, AgreeOn e₁.vars e₂.vars text) →
      r.resolve e₁.vars = r.resolve e₂.vars ∧
        SameOutcome (r.prepare e₁.vars) (r.prepare e₂.vars) ∧
        ∀ select elapsed,
          (r.run e₁ select elapsed).effects = (r.run e₂ select elapsed).effects) ∧
    ∀ e : Environment, (∀ text ∈ r.texts, ∀ name ∈ Template.names text, name ∉ e.vars.keys) →
      r.resolve e.vars = r.asSaved := by
  constructor
  · intro e₁ e₂ h
    have hresolve := resolve_eq_of_agree h
    refine ⟨hresolve, ?_, effects_eq_of_resolve_eq hresolve⟩
    rw [prepare, prepare, hresolve]
    exact sameOutcome_target? _ _ _
  · intro e h
    have hagree : ∀ text ∈ r.texts, AgreeOn e.vars .empty text := fun text ht name hname =>
      Entries.lookup_eq_none_iff.mpr (h text ht name hname)
    rw [resolve_eq_of_agree hagree, resolve_empty]

/-- Environments with different variables besides the host of the URL; of those that are named in a
header and a field, one is known to neither. -/
theorem Request.resolve_of_agree_beside_others :
    let hole (name : String) : String := String.ofList (Template.placeholder name.toList)
    let r : Request :=
      { url := "http://" ++ hole "host" ++ "/\x7d", method := .post
        headers := .ofList [("X-A", hole "token")], body := .ofList [(hole "key", "\x7b\x7b")] }
    let first : Environment := { vars := .ofList [("key", "k"), ("host", "h"), ("a", "1")] }
    let second : Environment := { vars := .ofList [("host", "h"), ("b", "2"), ("key", "k")] }
    let third : Environment := { vars := .ofList [("tok", "3"), ("en", "4")] }
    (∀ text ∈ r.texts, AgreeOn first.vars second.vars text) ∧
      r.resolve first.vars = r.resolve second.vars ∧
      SameOutcome (r.prepare first.vars) (r.prepare second.vars) ∧
      (∀ text ∈ r.texts, ∀ name ∈ Template.names text, name ∉ third.vars.keys) ∧
      r.resolve third.vars = r.asSaved := by
  intro hole r first second third
  have hnames : r.texts.flatMap Template.names = ["host", "token", "key"] := by decide +kernel
  have hmem : ∀ text ∈ r.texts, ∀ name ∈ Template.names text, name ∈ ["host", "token", "key"] :=
    fun text ht name hname => hnames ▸ List.mem_flatMap.mpr ⟨text, ht, hname⟩
  have hsame : ∀ name ∈ ["host", "token", "key"],
      first.vars.get? name = second.vars.get? name := by decide
  have hnone : ∀ name ∈ ["host", "token", "key"], name ∉ third.vars.keys := by decide
  have hagree : ∀ text ∈ r.texts, AgreeOn first.vars second.vars text :=
    fun text ht name hname => hsame name (hmem text ht name hname)
  have hunknown : ∀ text ∈ r.texts, ∀ name ∈ Template.names text, name ∉ third.vars.keys :=
    fun text ht name hname => hnone name (hmem text ht name hname)
  obtain ⟨hpair, hone⟩ := Request.resolve_of_agree r
  obtain ⟨hresolve, houtcome, -⟩ := hpair first second hagree
  exact ⟨hagree, hresolve, houtcome, hunknown, hone third hunknown⟩

end CallBook
