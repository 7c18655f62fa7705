import CallBook.Storage.Path

/-!
# The steps to a file in a directory

The path of a file is that of its directory and a name behind it, with or without a slash put in
between. However the directory is written, the file is one step further (`steps_join`), a file in it
is reached from the same place (`isAbsolute_join`), and its path is not that of a directory
(`endsInStep_join`).
-/

namespace CallBook

namespace Path

/-- A name that a file can have in a directory. -/
structure IsFileName (name : String) : Prop where
  slash : '/' ∉ name.toList
  nonempty : name.toList ≠ []
  dot : name ≠ "."
  dots : name ≠ ".."

variable {name : String}

/-- A name stands behind its directory, and behind a slash if the directory is not empty. -/
theorem join_cases (base name : String) :
    (base.toList = [] ∧ (join base name).toList = name.toList) ∨
      ∃ directory, (base.toList = directory ∨ base.toList = directory ++ ['/']) ∧
        base.toList ≠ [] ∧ (join base name).toList = directory ++ '/' :: name.toList := by
  rw [join]
  by_cases hempty : base.toList = []
  · refine Or.inl ⟨hempty, ?_⟩
    rw [if_pos, String.toList_append, hempty, List.nil_append]
    simp [String.toList_eq_nil_iff.mp hempty]
  · refine Or.inr ?_
    have hbase : base.isEmpty = false := by
      rw [← Bool.not_eq_true, String.isEmpty_iff]
      exact fun h => hempty (String.toList_eq_nil_iff.mpr h)
    by_cases hlast : base.toList.getLast? = some '/'
    · obtain ⟨directory, hdirectory⟩ := List.getLast?_eq_some_iff.mp hlast
      refine ⟨directory, Or.inr hdirectory, hempty, ?_⟩
      rw [if_pos (by simp [hlast]), String.toList_append, hdirectory, List.append_assoc]
      rfl
    · refine ⟨base.toList, Or.inl rfl, hempty, ?_⟩
      rw [if_neg (by simp [hlast, hbase]), String.toList_append, String.toList_append,
        List.append_assoc]
      rfl

/-- A file is one step further than its directory. -/
theorem steps_join (h : IsFileName name) (base : String) :
    steps (join base name) = steps base ++ [name] := by
  have hname : ((Text.fields (· == '/') name.toList).map String.ofList).filter
      (fun s => !(s.isEmpty || s == ".")) = [name] := by
    have hempty : name ≠ "" := fun he => h.nonempty (by rw [he]; rfl)
    rw [Text.fields_of_notMem h.slash, List.map_singleton, String.ofList_toList]
    simp [hempty, h.dot]
  rw [steps, steps]
  rcases join_cases base name with ⟨hbase, hjoin⟩ | ⟨directory, hbase, -, hjoin⟩
  · rw [hjoin, hname, hbase]
    rfl
  · rw [hjoin, Text.fields_append (by rfl), List.map_append, List.filter_append, hname]
    rcases hbase with hbase | hbase
    · rw [hbase]
    · -- what stands behind the last slash is no step
      rw [hbase, Text.fields_append (by rfl), List.map_append, List.filter_append]
      simp [Text.fields]

/-- A file and its directory are looked for from the same place. -/
theorem isAbsolute_join (h : IsFileName name) (base : String) :
    isAbsolute (join base name) = isAbsolute base := by
  have hhead : ∀ path, isAbsolute path = true ↔ path.toList.head? = some '/' := by
    intro path
    rw [isAbsolute, Text.beginsWith_iff]
    cases path.toList with
    | nil => simp
    | cons c rest => simp [eq_comm]
  rw [Bool.eq_iff_iff, hhead, hhead]
  rcases join_cases base name with ⟨hbase, hjoin⟩ | ⟨directory, hbase, hsome, hjoin⟩
  · rw [hjoin, hbase]
    refine iff_of_false (fun hslash => ?_) (by simp)
    exact h.slash (List.mem_of_head? hslash)
  · rw [hjoin]
    rcases hbase with hbase | hbase
    · rw [hbase] at hsome ⊢
      obtain ⟨c, rest, rfl⟩ := List.exists_cons_of_ne_nil hsome
      rfl
    · rw [hbase]
      cases directory with
      | nil => exact Iff.rfl
      | cons c rest => exact Iff.rfl

/-- The path of a file does not end like that of a directory. -/
theorem endsInStep_join (h : IsFileName name) (base : String) :
    endsInStep (join base name) = false := by
  have hname : name.toList <:+ (join base name).toList := by
    rcases join_cases base name with ⟨-, hjoin⟩ | ⟨directory, -, -, hjoin⟩
    · exact ⟨[], hjoin.symm⟩
    · exact ⟨directory ++ ['/'], by rw [hjoin, List.append_assoc]; rfl⟩
  -- an end with a slash in it would have to be longer than the name
  have hend : ∀ tail : List Char, '/' ∈ tail → tail <:+ (join base name).toList →
      name.toList <:+ tail := by
    intro tail hslash htail
    refine (List.suffix_or_suffix_of_suffix htail hname).resolve_left fun hin => ?_
    exact h.slash (hin.subset hslash)
  rw [endsInStep, Bool.or_eq_false_iff]
  constructor
  · rw [← Bool.not_eq_true, Text.endsWith_iff]
    intro htail
    rcases List.suffix_cons_iff.mp (hend _ (by decide) htail) with hall | hnone
    · exact h.slash (by rw [hall]; decide)
    · exact h.nonempty (List.suffix_nil.mp hnone)
  · rw [← Bool.not_eq_true, Text.endsWith_iff]
    intro htail
    rcases List.suffix_cons_iff.mp (hend _ (by decide) htail) with hall | hdot
    · exact h.slash (by rw [hall]; decide)
    · rcases List.suffix_cons_iff.mp hdot with hdot | hnone
      · exact h.dot (String.toList_injective hdot)
      · exact h.nonempty (List.suffix_nil.mp hnone)

end Path

end CallBook
