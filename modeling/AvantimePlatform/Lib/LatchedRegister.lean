import Mathlib

/-!
# Registers that keep the newest write and a final value

A register holds a value and the stamp of the write that it is from.  It takes a write
that is newer than its own, unless it holds a final value and the write does not.

Without final values the order in which writes arrive does not matter.
`orderFree_iff` says when it does not matter with them.

Nothing here names a component of the platform.
-/

namespace AvantimePlatform.LatchedRegister

universe u v

variable {Value : Type u} {Stamp : Type v}

/-- A write. -/
structure Write (Value : Type u) (Stamp : Type v) where
  value : Value
  stamp : Stamp
deriving DecidableEq

/-- A register; `none` is older than every write. -/
structure Register (Value : Type u) (Stamp : Type v) where
  value : Value
  stamp : Option Stamp
deriving DecidableEq

variable [LinearOrder Stamp]

namespace Register

/-- The write is newer than what the register holds. -/
def Fresh (r : Register Value Stamp) (w : Write Value Stamp) : Prop := ∀ t ∈ r.stamp, t < w.stamp

instance (r : Register Value Stamp) (w : Write Value Stamp) : Decidable (r.Fresh w) :=
  inferInstanceAs (Decidable (∀ _ ∈ _, _))

/-- The register after it has taken a write. -/
def taken (w : Write Value Stamp) : Register Value Stamp := ⟨w.value, some w.stamp⟩

/-- The register that takes the newer ones among the writes with `p`. -/
def newest (p : Value → Prop) [DecidablePred p] (r : Register Value Stamp) (w : Write Value Stamp) :
    Register Value Stamp :=
  if r.Fresh w ∧ p w.value then taken w else r

variable (final : Value → Prop) [DecidablePred final]

/-- The register that keeps a final value. -/
def receive (r : Register Value Stamp) (w : Write Value Stamp) : Register Value Stamp :=
  if r.Fresh w ∧ (final r.value → final w.value) then taken w else r

/-- The register holds a final value, no new write has one, or the newest write has one. -/
def OrderFree (r : Register Value Stamp) (ws : List (Write Value Stamp)) : Prop :=
  final r.value ∨ (∀ w ∈ ws, r.Fresh w → ¬final w.value) ∨
    ∃ w ∈ ws, r.Fresh w ∧ final w.value ∧ ∀ v ∈ ws, v.stamp ≤ w.stamp

end Register

open Register

section Newest

variable {p : Value → Prop} [DecidablePred p] {r : Register Value Stamp}
  {v w : Write Value Stamp} {ws ws' : List (Write Value Stamp)}

@[simp] theorem fresh_taken : (taken v).Fresh w ↔ v.stamp < w.stamp := by
  simp [Fresh, taken]

theorem Register.Fresh.trans (hv : r.Fresh v) (h : v.stamp < w.stamp) : r.Fresh w :=
  fun t ht => (hv t ht).trans h

/-- The register does not go back, so what is stale stays stale. -/
theorem fresh_of_fresh_newest (h : (newest p r v).Fresh w) : r.Fresh w := by
  unfold newest at h
  split at h
  · next hv => exact hv.1.trans (fresh_taken.mp h)
  · exact h

theorem newest_comm (h : v = w ∨ v.stamp ≠ w.stamp) :
    newest p (newest p r v) w = newest p (newest p r w) v := by
  rcases h with rfl | hne
  · rfl
  by_cases hv : r.Fresh v ∧ p v.value
  · by_cases hw : r.Fresh w ∧ p w.value
    · rcases lt_or_gt_of_ne hne with hlt | hgt
      · have hnot : ¬w.stamp < v.stamp := not_lt_of_gt hlt
        simp [newest, hv, hw, hlt, hnot]
      · have hnot : ¬v.stamp < w.stamp := not_lt_of_gt hgt
        simp [newest, hv, hw, hgt, hnot]
    · have hrw : newest p r w = r := if_neg hw
      have hstale : ¬((newest p r v).Fresh w ∧ p w.value) :=
        fun h => hw ⟨fresh_of_fresh_newest h.1, h.2⟩
      rw [hrw]
      exact if_neg hstale
  · have hrv : newest p r v = r := if_neg hv
    have hstale : ¬((newest p r w).Fresh v ∧ p v.value) :=
      fun h => hv ⟨fresh_of_fresh_newest h.1, h.2⟩
    rw [hrv]
    exact (if_neg hstale).symm

theorem stamp_ne_of_ne (hd : (ws.map (·.stamp)).Nodup) (hv : v ∈ ws) (hw : w ∈ ws) :
    v = w ∨ v.stamp ≠ w.stamp := by
  by_cases hsame : v.stamp = w.stamp
  · exact Or.inl (List.inj_on_of_nodup_map hd hv hw hsame)
  · exact Or.inr hsame

/-- The newest write wins in every order. -/
theorem foldl_newest_perm (hd : (ws.map (·.stamp)).Nodup) (h : ws.Perm ws') :
    ws.foldl (newest p) r = ws'.foldl (newest p) r :=
  h.foldl_eq' (fun _ hv _ hw _ => newest_comm (stamp_ne_of_ne hd hv hw)) r

end Newest

section Receive

variable {final : Value → Prop} [DecidablePred final] {r : Register Value Stamp}
  {w : Write Value Stamp} {ws ws' : List (Write Value Stamp)}

theorem receive_eq_newest_of_final (h : final r.value) : receive final r w = newest final r w := by
  simp [receive, newest, h]

theorem final_newest (h : final r.value) : final (newest final r w).value := by
  unfold newest
  split
  · next hw => exact hw.2
  · exact h

/-- From a final value on, the register takes the newest final write. -/
theorem foldl_receive_of_final (h : final r.value) :
    ws.foldl (receive final) r = ws.foldl (newest final) r := by
  induction ws generalizing r with
  | nil => rfl
  | cons w ws ih =>
      rw [List.foldl_cons, List.foldl_cons, receive_eq_newest_of_final h]
      exact ih (final_newest h)

theorem final_foldl_receive (h : final r.value) : final (ws.foldl (receive final) r).value := by
  rw [foldl_receive_of_final h]
  induction ws generalizing r with
  | nil => exact h
  | cons w ws ih => exact ih (final_newest h)

theorem receive_eq_newest_of_not_final (h : ¬final r.value) :
    receive final r w = newest (fun _ => True) r w := by
  simp [receive, newest, h]

/-- Without a new final write, the register takes the newest write. -/
theorem foldl_receive_of_none (hr : ¬final r.value) (h : ∀ w ∈ ws, r.Fresh w → ¬final w.value) :
    ws.foldl (receive final) r = ws.foldl (newest fun _ => True) r := by
  induction ws generalizing r with
  | nil => rfl
  | cons w ws ih =>
      rw [List.foldl_cons, List.foldl_cons, receive_eq_newest_of_not_final hr]
      refine ih ?_ fun v hv hfresh => h v (List.mem_cons_of_mem w hv) (fresh_of_fresh_newest hfresh)
      unfold newest
      split
      · next hw => exact h w List.mem_cons_self hw.1
      · exact hr

/-- After the newest write nothing is taken. -/
theorem foldl_receive_taken (h : ∀ v ∈ ws, v.stamp ≤ w.stamp) :
    ws.foldl (receive final) (taken w) = taken w := by
  induction ws with
  | nil => rfl
  | cons v ws ih =>
      have hstale : ¬((taken w).Fresh v ∧ (final (taken w).value → final v.value)) := by
        rw [fresh_taken]
        exact fun hv => not_lt_of_ge (h v List.mem_cons_self) hv.1
      rw [List.foldl_cons, receive, if_neg hstale]
      exact ih fun v hv => h v (List.mem_cons_of_mem _ hv)

/-- The newest write, when it has a final value, is what every order ends with. -/
theorem foldl_receive_of_newest_final (hd : (ws.map (·.stamp)).Nodup) (hw : w ∈ ws)
    (hfresh : r.Fresh w) (hfinal : final w.value) (hnewest : ∀ v ∈ ws, v.stamp ≤ w.stamp) :
    ws.foldl (receive final) r = taken w := by
  induction ws generalizing r with
  | nil => cases hw
  | cons v ws ih =>
      have hrest : ∀ v' ∈ ws, v'.stamp ≤ w.stamp := fun v' hv' => hnewest v' (List.mem_cons_of_mem v hv')
      rw [List.foldl_cons]
      rcases List.mem_cons.mp hw with rfl | hmem
      · have htaken : receive final r w = taken w := if_pos ⟨hfresh, fun _ => hfinal⟩
        rw [htaken]
        exact foldl_receive_taken hrest
      · have hlt : v.stamp < w.stamp := by
          refine lt_of_le_of_ne (hnewest v List.mem_cons_self) fun hsame => ?_
          rw [List.map_cons, List.nodup_cons] at hd
          exact hd.1 (hsame ▸ List.mem_map_of_mem hmem)
        refine ih (List.Nodup.of_cons hd) hmem ?_ hrest
        unfold receive
        split
        · exact fresh_taken.mpr hlt
        · exact hfresh

theorem exists_newest (h : w ∈ ws) : ∃ v ∈ ws, ∀ u ∈ ws, u.stamp ≤ v.stamp := by
  cases hmax : ws.argmax (·.stamp) with
  | none =>
      rw [List.argmax_eq_none.mp hmax] at h
      cases h
  | some v => exact ⟨v, List.argmax_mem hmax, fun u hu => List.le_of_mem_argmax hu hmax⟩

omit [LinearOrder Stamp] in
theorem exists_perm_cons (h : w ∈ ws) : ∃ o, (w :: o).Perm ws := by
  obtain ⟨before, after, rfl⟩ := List.append_of_mem h
  exact ⟨before ++ after, List.perm_middle.symm⟩

/-- In which order the writes arrive does not matter exactly when the register holds a
final value, no new write has one, or the newest write has one. -/
theorem orderFree_iff (hd : (ws.map (·.stamp)).Nodup) :
    OrderFree final r ws ↔ ∀ o o' : List (Write Value Stamp), o.Perm ws → o'.Perm ws →
      o.foldl (receive final) r = o'.foldl (receive final) r := by
  have hd' : ∀ o : List (Write Value Stamp), o.Perm ws → (o.map (·.stamp)).Nodup :=
    fun o ho => (ho.map _).nodup_iff.mpr hd
  constructor
  · rintro (hfinal | hnone | ⟨w, hw, hfresh, hfinal, hnewest⟩) o o' ho ho'
    · rw [foldl_receive_of_final hfinal, foldl_receive_of_final hfinal]
      exact foldl_newest_perm (hd' o ho) (ho.trans ho'.symm)
    · by_cases hr : final r.value
      · rw [foldl_receive_of_final hr, foldl_receive_of_final hr]
        exact foldl_newest_perm (hd' o ho) (ho.trans ho'.symm)
      · rw [foldl_receive_of_none hr fun w hw => hnone w (ho.subset hw),
          foldl_receive_of_none hr fun w hw => hnone w (ho'.subset hw)]
        exact foldl_newest_perm (hd' o ho) (ho.trans ho'.symm)
    · rw [foldl_receive_of_newest_final (hd' o ho) (ho.symm.subset hw) hfresh hfinal
          fun v hv => hnewest v (ho.subset hv),
        foldl_receive_of_newest_final (hd' o' ho') (ho'.symm.subset hw) hfresh hfinal
          fun v hv => hnewest v (ho'.subset hv)]
  · intro hsame
    by_contra hnot
    simp only [OrderFree, not_or, not_forall, not_exists, not_and, not_not] at hnot
    obtain ⟨hr, ⟨t, ht, htfresh, htfinal⟩, hlater⟩ := hnot
    obtain ⟨w, hw, hnewest⟩ := exists_newest ht
    have hfresh : r.Fresh w := fun stamp hstamp => (htfresh stamp hstamp).trans_le (hnewest t ht)
    have hw' : ¬final w.value := by
      intro hfinal
      obtain ⟨v, hv, hgt⟩ := hlater w hw hfresh hfinal
      exact hgt (hnewest v hv)
    -- one order begins with the newest write, the other one with a final one
    obtain ⟨o, ho⟩ := exists_perm_cons hw
    obtain ⟨o', ho'⟩ := exists_perm_cons ht
    have hfirst : (w :: o).foldl (receive final) r = taken w := by
      rw [List.foldl_cons, show receive final r w = taken w from if_pos ⟨hfresh, fun h => absurd h hr⟩]
      exact foldl_receive_taken fun v hv => hnewest v (ho.subset (List.mem_cons_of_mem w hv))
    have hsecond : final ((t :: o').foldl (receive final) r).value := by
      rw [List.foldl_cons, show receive final r t = taken t from if_pos ⟨htfresh, fun _ => htfinal⟩]
      exact final_foldl_receive htfinal
    rw [← hsame _ _ ho ho', hfirst] at hsecond
    exact hw' hsecond

end Receive

end AvantimePlatform.LatchedRegister
