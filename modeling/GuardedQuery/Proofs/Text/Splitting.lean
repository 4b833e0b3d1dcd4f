import GuardedQuery.Text.Split

/-! # Cutting a text that was put together

Behind a separator a cut begins anew, so pieces that were written with a separator in front of each
come back as they were, and so do pieces that were joined with separators between them. -/

namespace GuardedQuery.Text

variable {sep : Char}

/-- A cut is the library's, written without an accumulator. -/
theorem cut_eq_splitOn (sep : Char) (cs : List Char) : cut sep cs = cs.splitOn sep := by
  induction cs with
  | nil => rfl
  | cons c cs ih =>
      rw [cut, List.splitOn_cons_eq_if_modifyHead, ih]
      by_cases hc : c = sep
      · rw [if_pos hc, if_pos (beq_iff_eq.mpr hc)]
      · rw [if_neg hc, if_neg (mt beq_iff_eq.mp hc)]
        cases hpieces : cs.splitOn sep with
        | nil => exact absurd hpieces (List.splitOn_ne_nil sep cs)
        | cons piece pieces => rfl

theorem cut_append_cons (u v : List Char) : cut sep (u ++ sep :: v) = cut sep u ++ cut sep v := by
  simp only [cut_eq_splitOn, List.splitOn_append_cons_self]

theorem cut_of_notMem {cs : List Char} (h : sep ∉ cs) : cut sep cs = [cs] := by
  rw [cut_eq_splitOn, List.splitOn_eq_singleton h]

theorem cut_append_flatMap (cs : List Char) {pieces : List (List Char)}
    (h : ∀ piece ∈ pieces, sep ∉ piece) :
    cut sep (cs ++ pieces.flatMap (sep :: ·)) = cut sep cs ++ pieces := by
  induction pieces generalizing cs with
  | nil => rw [List.flatMap_nil, List.append_nil, List.append_nil]
  | cons piece pieces ih =>
      obtain ⟨hpiece, hpieces⟩ := List.forall_mem_cons.mp h
      rw [List.flatMap_cons, List.cons_append, cut_append_cons, ih piece hpieces,
        cut_of_notMem hpiece, List.singleton_append]

theorem notMem_of_mem_cut {cs piece : List Char} (h : piece ∈ cut sep cs) : sep ∉ piece := by
  induction cs generalizing piece with
  | nil =>
      obtain rfl := List.mem_singleton.mp h
      exact List.not_mem_nil
  | cons c cs ih =>
      rw [cut] at h
      by_cases hc : c = sep
      · rw [if_pos hc] at h
        rcases List.mem_cons.mp h with rfl | h
        · exact List.not_mem_nil
        · exact ih h
      · rw [if_neg hc] at h
        cases hcut : cut sep cs with
        | nil => exact absurd hcut (cut_ne_nil sep cs)
        | cons first pieces =>
            simp only [hcut] at h ih
            rcases List.mem_cons.mp h with rfl | h
            · rw [List.mem_cons, not_or]
              exact ⟨Ne.symm hc, ih List.mem_cons_self⟩
            · exact ih (List.mem_cons_of_mem first h)

theorem cutOnce_append_cons {u : List Char} (h : sep ∉ u) (v : List Char) :
    cutOnce sep (u ++ sep :: v) = some (u, v) := by
  induction u with
  | nil => rw [List.nil_append, cutOnce, if_pos rfl]
  | cons c u ih =>
      obtain ⟨hc, hu⟩ := not_or.mp (mt List.mem_cons.mpr h)
      rw [List.cons_append, cutOnce, if_neg (Ne.symm hc), ih hu, Option.map_some]

theorem cutOnce_of_notMem {cs : List Char} (h : sep ∉ cs) : cutOnce sep cs = none := by
  induction cs with
  | nil => rfl
  | cons c cs ih =>
      obtain ⟨hc, hcs⟩ := not_or.mp (mt List.mem_cons.mpr h)
      rw [cutOnce, if_neg (Ne.symm hc), ih hcs, Option.map_none]

/-! ## Strings -/

theorem notMem_of_mem_split {s piece : String} (h : piece ∈ split sep s) : sep ∉ piece.toList := by
  obtain ⟨chars, hchars, rfl⟩ := List.mem_map.mp h
  rw [String.toList_ofList]
  exact notMem_of_mem_cut hchars

theorem map_toList_split (sep : Char) (s : String) :
    (split sep s).map String.toList = cut sep s.toList := by
  simp [split, Function.comp_def]

/-- Joining the pieces of a text with the separator gives the text back. -/
theorem intercalate_split (sep : Char) (s : String) :
    String.intercalate (String.singleton sep) (split sep s) = s := by
  apply String.toList_injective
  rw [String.toList_intercalate, map_toList_split, String.toList_singleton, cut_eq_splitOn,
    List.intercalate_splitOn]

/-- Pieces without the separator come back from their join. -/
theorem split_intercalate {pieces : List String} (hne : pieces ≠ [])
    (h : ∀ piece ∈ pieces, sep ∉ piece.toList) :
    split sep (String.intercalate (String.singleton sep) pieces) = pieces := by
  have hchars : ∀ chars ∈ pieces.map String.toList, sep ∉ chars := List.forall_mem_map.mpr h
  have hmap : pieces.map String.toList ≠ [] := mt List.map_eq_nil_iff.mp hne
  rw [split, String.toList_intercalate, String.toList_singleton, cut_eq_splitOn,
    List.splitOn_intercalate sep hchars hmap, List.map_map]
  simp [Function.comp_def]

end GuardedQuery.Text
