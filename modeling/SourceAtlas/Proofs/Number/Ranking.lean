import SourceAtlas.Number.Ranking

/-! Ordering items by a double loses none and makes none up, also where a key is no number. -/

namespace SourceAtlas

variable {α : Type} (key : α → Binary64)

/-- An item is put among the others, wherever halving leads. -/
theorem insertAscending_perm (done : List α) (item : α) :
    (insertAscending key done item).Perm (item :: done) := by
  -- Wherever the place is, the item stands between a first and a last part of the others.
  unfold insertAscending
  generalize placeFor (key item) (done.map key).toArray 0 done.length = place
  have middle : (done.take place ++ item :: done.drop place).Perm
      (item :: (done.take place ++ done.drop place)) :=
    List.perm_middle
  rwa [List.take_append_drop] at middle

/-- Items that are put in one by one are all there in the end. -/
theorem foldl_insertAscending_perm (items done : List α) :
    (items.foldl (insertAscending key) done).Perm (done ++ items) := by
  -- The list grows with every item, so it stays quantified over.
  induction items generalizing done with
  | nil => simp
  | cons item items ih =>
    have one : (insertAscending key done item ++ items).Perm (item :: done ++ items) :=
      (insertAscending_perm key done item).append_right items
    exact (ih _).trans (one.trans List.perm_middle.symm)

/-- A falling run and what follows it are the items. -/
theorem fallingRun_append (last : α) (items : List α) :
    (fallingRun key last items).1 ++ (fallingRun key last items).2 = items := by
  -- The run takes items as long as they fall, and leaves all others behind.
  fun_induction fallingRun key last items with
  | case1 => rfl
  | case2 last item items falls run rest isRun ih => simpa [isRun] using ih
  | case3 => rfl

/-- A rising run and what follows it are the items. -/
theorem risingRun_append (last : α) (items : List α) :
    (risingRun key last items).1 ++ (risingRun key last items).2 = items := by
  -- The run takes items as long as they rise, and leaves all others behind.
  fun_induction risingRun key last items with
  | case1 => rfl
  | case2 => rfl
  | case3 last item items rises run rest isRun ih => simpa [isRun] using ih

/-- Ordering upwards rearranges the items. -/
theorem sortAscending_perm (items : List α) : (sortAscending key items).Perm items := by
  -- Up to one item there is nothing to order; else a first run is taken, and the rest is put in.
  fun_cases sortAscending key items with
  | case1 => rfl
  | case2 => rfl
  | case3 first second items start rest isStart =>
    refine (foldl_insertAscending_perm key rest start).trans ?_
    -- The first run, turned round if it falls, and the rest are the items.
    split at isStart
    · obtain ⟨rfl, rfl⟩ := Prod.mk.inj isStart
      have whole := fallingRun_append key second items
      exact ((List.reverse_perm _).append_right _).trans (by simp [whole])
    · obtain ⟨rfl, rfl⟩ := Prod.mk.inj isStart
      simp [risingRun_append key second items]

/-- Ordering items rearranges them. -/
theorem sortDescending_perm (items : List α) : (sortDescending key items).Perm items := by
  -- Keys that are all numbers are merged, others are put in one by one from the end.
  unfold sortDescending
  split
  · exact (List.reverse_perm _).trans ((sortAscending_perm key _).trans (List.reverse_perm _))
  · exact List.mergeSort_perm _ _

end SourceAtlas
