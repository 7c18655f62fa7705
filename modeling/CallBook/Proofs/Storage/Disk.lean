import CallBook.Proofs.Storage.Path
import CallBook.Proofs.Storage.Refinement
import CallBook.Storage.Disk

/-!
# The files of the stores on a disk

A disk is changed in one way only: something is put at a place. At every other place there is then
what was there before, but that a place where nothing was may have become a directory, being on
the way to the new thing (`contentAt_put_of_ne`). What stands neither there nor on the way stays as
it is (`contentAt_put_of_not_below`), and so does the file of one store when the other is kept
(`storeAt_keepStore_of_ne`), unless the way to the two led through its place.

A store is `Ready` to be read if there is a directory at each place on the way to it. Then what
stands in its file is what is seen of it (`content_openStore`), and otherwise nothing is seen.
-/

namespace CallBook

namespace Disk

variable {d : Disk} {p q : List String}

/-! ## Putting something at a place -/

theorem prefix_of_isBelow {steps above : List String} (h : isBelow steps above = true) :
    above <+: steps := by
  induction steps generalizing above with
  | nil => cases h
  | cons s steps ih =>
    cases above with
    | nil => exact List.nil_prefix
    | cons a above =>
      rw [isBelow, Bool.and_eq_true, beq_iff_eq] at h
      rw [h.1]
      exact List.cons_prefix_cons.mpr ⟨rfl, ih h.2⟩

/-- What is put at a place is there. -/
theorem contentAt_put_self (d : Disk) (p : List String) (content : Content) :
    (d.put p content).contentAt p = content := by
  simp [contentAt, put]

/-- What is put at one place is not found at another. -/
theorem find?_put (h : p ≠ q) (content : Content) :
    (d.put q content).contents.find? (·.1 == p) = d.contents.find? (·.1 == p) := by
  show ((q, content) :: d.contents.filter (·.1 != q)).find? (·.1 == p) = _
  rw [List.find?_cons_of_neg (by simpa using Ne.symm h), List.find?_filter]
  congr 1
  funext e
  by_cases he : e.1 = p
  · simp [he, h]
  · simp [he]

/-- Nothing changes at a place that the new thing does not stand below. -/
theorem contentAt_put_of_not_below (h : ¬ p <+: q) (content : Content) :
    (d.put q content).contentAt p = d.contentAt p := by
  have hne : p ≠ q := by
    rintro rfl
    exact h (List.prefix_refl p)
  have hany : ((d.put q content).contents.any fun e => isBelow e.1 p)
      = d.contents.any fun e => isBelow e.1 p := by
    rw [Bool.eq_iff_iff, List.any_eq_true, List.any_eq_true]
    constructor
    · rintro ⟨e, he, hbelow⟩
      rcases List.mem_cons.mp he with rfl | he
      · exact absurd (prefix_of_isBelow hbelow) h
      · exact ⟨e, (List.mem_filter.mp he).1, hbelow⟩
    · rintro ⟨e, he, hbelow⟩
      have hq : e.1 ≠ q := by
        rintro rfl
        exact h (prefix_of_isBelow hbelow)
      exact ⟨e, List.mem_cons_of_mem _ (List.mem_filter.mpr ⟨he, by simpa using hq⟩), hbelow⟩
  rw [contentAt, contentAt, find?_put hne, hany]

/-- A new directory is seen only at its place and above it. -/
theorem contentAt_makeDirectory_of_not_below (h : ¬ p <+: q) :
    (d.makeDirectory q).contentAt p = d.contentAt p := by
  rw [makeDirectory]
  split
  · exact contentAt_put_of_not_below h .directory
  · rfl

/-- The working directory stays the same when a directory is made. -/
theorem current_makeDirectory (d : Disk) (q : List String) :
    (d.makeDirectory q).current = d.current := by
  rw [makeDirectory]
  split <;> rfl

/-! ## Making the way -/

variable {place steps : List String} {made : Bool}

/-- The way to a place passes where it starts. -/
theorem mem_passed_self (place steps : List String) : place.reverse ∈ passed place steps := by
  cases steps with
  | nil => exact List.mem_singleton_self _
  | cons step steps => exact List.mem_cons_self

/-- The first part of a way passes no other places than the whole. -/
theorem mem_passed_of_take {count : Nat} (h : q ∈ passed place (steps.take count)) :
    q ∈ passed place steps := by
  induction steps generalizing place count with
  | nil => rwa [List.take_nil] at h
  | cons step steps ih =>
    cases count with
    | zero =>
      rw [List.take_zero, passed, List.mem_singleton] at h
      rw [h]
      exact mem_passed_self place (step :: steps)
    | succ count =>
      rw [List.take_succ_cons, passed, List.mem_cons] at h
      exact List.mem_cons.mpr (h.imp_right ih)

/-- Nothing changes at a place that the way does not lead to or below. -/
theorem contentAt_makeWay_of_not_below (h : ∀ q ∈ passed place steps, ¬ p <+: q) :
    (d.makeWay made place steps).1.contentAt p = d.contentAt p := by
  induction steps generalizing d made place with
  | nil =>
    unfold makeWay
    split
    · rfl
    · exact contentAt_makeDirectory_of_not_below (h _ (mem_passed_self place []))
  | cons step steps ih =>
    unfold makeWay
    split
    · rfl
    · rw [ih fun q hq => h q (List.mem_cons_of_mem _ hq)]
      exact contentAt_makeDirectory_of_not_below (h _ (mem_passed_self place (step :: steps)))

/-- The working directory stays the same when a way is made. -/
theorem current_makeWay (d : Disk) (made : Bool) (place steps : List String) :
    (d.makeWay made place steps).1.current = d.current := by
  induction steps generalizing d made place with
  | nil =>
    unfold makeWay
    split
    · rfl
    · exact current_makeDirectory d place.reverse
  | cons step steps ih =>
    unfold makeWay
    split
    · rfl
    · rw [ih, current_makeDirectory]

/-- A name at the end of a path is the last step of its place. -/
theorem settled_concat {name : String} (h : name ≠ "..") (place steps : List String) :
    settled place (steps ++ [name]) = settled place steps ++ [name] := by
  induction steps generalizing place with
  | nil =>
    show settled (if name == ".." then place.tail else name :: place) [] = _
    rw [if_neg (by simpa using h)]
    exact List.reverse_cons
  | cons step steps ih => exact ih _

/-- A way that passes below a place and does not end there passes the place itself. -/
theorem mem_passed_of_below {place steps : List String} (hq : q ∈ passed place steps)
    (hp : p <+: q) (hend : ¬ p <+: settled place steps) : p ∈ passed place steps := by
  induction steps generalizing place q with
  | nil =>
    rw [List.mem_singleton.mp hq] at hp
    exact absurd hp hend
  | cons step steps ih =>
    rcases List.mem_cons.mp hq with rfl | hq
    · by_cases hhere : p = place.reverse
      · exact hhere ▸ List.mem_cons_self
      · -- the way is still below the place after one more step, in or out
        refine List.mem_cons_of_mem _ (ih (mem_passed_self _ steps) ?_ hend)
        split
        · cases place with
          | nil => exact hp
          | cons last place =>
            rw [List.reverse_cons] at hp hhere
            exact (List.prefix_concat_iff.mp hp).resolve_left hhere
        · rw [List.reverse_cons]
          exact hp.trans (List.prefix_append _ _)
    · exact List.mem_cons_of_mem _ (ih hq hp hend)

/-- The last step of a way can be made exactly if all that was passed are directories. -/
theorem follow_concat {place steps : List String} {name : String} (hname : name ≠ "..")
    (h : ∀ q ∈ passed place steps, d.contentAt q = .directory) :
    d.follow place (steps ++ [name]) = .ok (d.contentAt (settled place steps ++ [name])) := by
  induction steps generalizing place with
  | nil =>
    rw [List.nil_append, follow, h _ (mem_passed_self place [])]
    show d.follow (if name == ".." then place.tail else name :: place) [] = _
    rw [if_neg (by simpa using hname), follow, List.reverse_cons]
    rfl
  | cons step steps ih =>
    rw [List.cons_append, follow, h _ (mem_passed_self place (step :: steps))]
    exact ih fun q hq => h q (List.mem_cons_of_mem _ hq)

/-- To follow a step from a place, the place has to be a directory. -/
theorem of_follow_cons {place steps : List String} {step : String} {content : Content}
    (h : d.follow place (step :: steps) = .ok content) :
    d.contentAt place.reverse = .directory ∧
      d.follow (if step == ".." then place.tail else step :: place) steps = .ok content := by
  rw [follow] at h
  split at h
  next => cases h
  next => cases h
  next hplace => exact ⟨hplace, h⟩

/-- A path that can be followed passes directories only. -/
theorem directories_of_follow {place steps : List String} {name : String} {content : Content}
    (h : d.follow place (steps ++ [name]) = .ok content) :
    ∀ q ∈ passed place steps, d.contentAt q = .directory := by
  induction steps generalizing place with
  | nil =>
    intro q hq
    rw [List.mem_singleton.mp hq]
    exact (of_follow_cons h).1
  | cons step steps ih =>
    obtain ⟨hplace, hmore⟩ := of_follow_cons h
    intro q hq
    rcases List.mem_cons.mp hq with rfl | hq
    · exact hplace
    · exact ih hmore q hq

/-! ## The places of the stores -/

theorem isFileName (k : Kind) : Path.IsFileName (Stored.fileName k.Record) := by
  cases k with
  | call => exact ⟨by decide, by decide, by decide, by decide⟩
  | environment => exact ⟨by decide, by decide, by decide, by decide⟩

/-- Where the file of a kind of records stands in a directory. -/
def storePlace (place : List String) (k : Kind) : List String :=
  place ++ [Stored.fileName k.Record]

/-- What stands in the place of the file of a kind of records. -/
def storeAt (d : Disk) (place : List String) (k : Kind) : Content :=
  d.contentAt (storePlace place k)

variable {base : String} {j k : Kind}

/-- The path of a store starts where that of its directory starts. -/
theorem start_join (d : Disk) (base : String) (k : Kind) :
    d.start (Path.join base (Stored.fileName k.Record)) = d.start base := by
  rw [start, start, Path.isAbsolute_join (isFileName k)]

/-- The place of a store is below that of its directory. -/
theorem stepsTo_join (d : Disk) (base : String) (k : Kind) :
    d.stepsTo (Path.join base (Stored.fileName k.Record)) = storePlace (d.stepsTo base) k := by
  rw [stepsTo, start_join, Path.steps_join (isFileName k), settled_concat (isFileName k).dots]
  rfl

/-- Neither file stands at or below the place of the other. -/
theorem not_storePlace_below (h : j ≠ k) (place : List String) :
    ¬ storePlace place j <+: storePlace place k := by
  intro hprefix
  have hlength : (storePlace place j).length = (storePlace place k).length := by
    rw [storePlace, storePlace, List.length_append, List.length_append]
    rfl
  have heq := hprefix.eq_of_length hlength
  rw [storePlace, storePlace, List.append_cancel_left_eq] at heq
  revert h heq
  cases j <;> cases k <;> decide

/-! ## Opening a store -/

/-- There is a directory at each place on the way. -/
def Ready (d : Disk) (base : String) : Prop := ∀ q ∈ d.wayTo base, d.contentAt q = .directory

/-- In a directory that is ready the file of a store is looked up at its place. -/
theorem lookup_of_ready (h : d.Ready base) (k : Kind) :
    d.lookup (Path.join base (Stored.fileName k.Record)) = .ok (d.storeAt (d.stepsTo base) k) := by
  rw [lookup, start_join, Path.steps_join (isFileName k), follow_concat (isFileName k).dots h,
    Path.endsInStep_join (isFileName k), storeAt, storePlace, stepsTo]
  cases d.contentAt (settled (d.start base) (Path.steps base) ++ [Stored.fileName k.Record]) <;> rfl

/-- If a store can be looked up, its directory is ready. -/
theorem ready_of_lookup {content : Content}
    (h : d.lookup (Path.join base (Stored.fileName k.Record)) = .ok content) : d.Ready base := by
  rw [lookup, start_join, Path.steps_join (isFileName k)] at h
  cases hfollow : d.follow (d.start base) (Path.steps base ++ [Stored.fileName k.Record]) with
  | ok content => exact directories_of_follow hfollow
  | error e =>
    rw [hfollow] at h
    cases h

/-- Of a store that is ready, what stands in its file is seen. -/
theorem content_openStore (h : d.Ready base) (k : Kind) :
    (d.openStore k.Record base).content = d.storeAt (d.stepsTo base) k := by
  rw [openStore, lookup_of_ready h]

/-- Of a store that is not ready, nothing is seen. -/
theorem ready_of_content_ne_missing (h : (d.openStore k.Record base).content ≠ .missing) :
    d.Ready base := by
  rw [openStore] at h
  cases hlookup : d.lookup (Path.join base (Stored.fileName k.Record)) with
  | ok content => exact ready_of_lookup hlookup
  | error e =>
    rw [hlookup] at h
    exact absurd rfl h

/-- A store that is opened holds what is at its place, or seems to be missing. -/
theorem content_openStore_cases (d : Disk) (base : String) (k : Kind) :
    (d.openStore k.Record base).content = .missing ∨
      (d.openStore k.Record base).content = d.storeAt (d.stepsTo base) k := by
  by_cases h : (d.openStore k.Record base).content = .missing
  · exact Or.inl h
  · exact Or.inr (content_openStore (ready_of_content_ne_missing h) k)

/-! ## Making the way to a store -/

/-- A path leads to a directory, and not through the place of a store's file in it, where else a
directory would be made before the file is written. -/
structure LeadsTo (d : Disk) (base : String) (place : List String) : Prop where
  stepsTo : d.stepsTo base = place
  clear : ∀ k, storePlace place k ∉ d.wayTo base

/-- Where a path leads depends on the disk only by where it starts. -/
theorem LeadsTo.of_start {e : Disk} (h : d.LeadsTo base place)
    (hstart : e.start base = d.start base) : e.LeadsTo base place := by
  obtain ⟨hsteps, hclear⟩ := h
  rw [Disk.stepsTo, ← hstart] at hsteps
  refine ⟨hsteps, ?_⟩
  intro k
  rw [wayTo, hstart]
  exact hclear k

/-- An absolute path leads to the same place on every disk. -/
theorem LeadsTo.of_isAbsolute (h : d.LeadsTo base place) (hbase : Path.isAbsolute base = true)
    (e : Disk) : e.LeadsTo base place :=
  h.of_start (by rw [start, start, if_pos hbase, if_pos hbase])

/-- A way that does not lead through the place of a file does not lead below it. -/
theorem LeadsTo.not_below (h : d.LeadsTo base place) (k : Kind) :
    ∀ q ∈ d.wayTo base, ¬ storePlace place k <+: q := by
  intro q hq hprefix
  refine h.clear k (mem_passed_of_below hq hprefix ?_)
  intro hend
  have hle := hend.length_le
  have hplace : settled (d.start base) (Path.steps base) = place := h.stepsTo
  rw [hplace, storePlace, List.length_append, List.length_singleton] at hle
  omega

/-- No file is touched where directories on the way are made. -/
theorem storeAt_makeWayTo (h : d.LeadsTo base place) (steps : Option Nat) (k : Kind) :
    (d.makeWayTo base steps).1.storeAt place k = d.storeAt place k :=
  contentAt_makeWay_of_not_below fun q hq => h.not_below k q (mem_passed_of_take hq)

/-- A store that changed is kept by making the directories on the way and putting its file. -/
theorem keepStore_eq (d : Disk) {before after : Store k.Record} (hbase : after.base = base) :
    d.keepStore before after = if after.content = before.content then d
      else (d.makeWayTo base).1.put (storePlace (d.stepsTo base) k) after.content := by
  subst hbase
  rw [keepStore, writeBelow, Store.path, stepsTo_join]

/-- Keeping a store changes no place that a path starts from. -/
theorem start_keepStore {α : Type} [Stored α] (d : Disk) (before after : Store α)
    (path : String) : (d.keepStore before after).start path = d.start path := by
  have hcurrent : (d.keepStore before after).current = d.current := by
    rw [keepStore]
    split
    · rfl
    · exact current_makeWay d false _ _
  rw [start, start, hcurrent]

/-- The file of a store that is kept is as it was, or holds what the store holds. -/
theorem storeAt_keepStore_self (h : d.LeadsTo base place) {before after : Store k.Record}
    (hbase : after.base = base) :
    (d.keepStore before after).storeAt place k = d.storeAt place k ∨
      (d.keepStore before after).storeAt place k = after.content := by
  rw [keepStore_eq d hbase, h.stepsTo]
  split
  · exact Or.inl rfl
  · exact Or.inr (contentAt_put_self _ _ _)

/-- The file of one store is not touched when the other is kept. -/
theorem storeAt_keepStore_of_ne (h : d.LeadsTo base place) (hjk : j ≠ k)
    {before after : Store k.Record} (hbase : after.base = base) :
    (d.keepStore before after).storeAt place j = d.storeAt place j := by
  rw [keepStore_eq d hbase, h.stepsTo]
  split
  · rfl
  · rw [← storeAt_makeWayTo h none j]
    exact contentAt_put_of_not_below (not_storePlace_below hjk place) after.content

end Disk

end CallBook
