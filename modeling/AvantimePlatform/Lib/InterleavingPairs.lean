import AvantimePlatform.Lib.Interleaving

/-!
# Calls that exclude each other

The interleaving rule asks that a step of one call keeps the assertion of every call in
progress.  Where a lock or a token keeps calls apart, it has to do so only for the calls
at the other positions, and may use that they are apart from the one that steps.

`Program.reachable_inv_apart` is the rule for that: besides the invariant and the
assertions, a symmetric relation `Apart` between the calls at any two positions.

Nothing here names a component of the platform.
-/

namespace AvantimePlatform.Interleaving

open AvantimePlatform.Transition

universe u v w x

variable {Shared : Type u} {Local : Type v} {Env : Type w} {Input : Type x}

/-- The calls at any two positions are apart. -/
def PairsApart (Apart : Local → Local → Prop) (ls : List Local) : Prop :=
  ∀ (i j : Nat) (l m : Local), i ≠ j → ls[i]? = some l → ls[j]? = some m → Apart l m

section Lists

variable {Apart : Local → Local → Prop} {ls : List Local}

theorem pairsApart_nil : PairsApart Apart [] := by
  intro i j l m _ hl
  simp at hl

theorem PairsApart.append_one (h : PairsApart Apart ls) (hsymm : ∀ l m, Apart l m → Apart m l) {l : Local}
    (hl : ∀ m ∈ ls, Apart l m) : PairsApart Apart (ls ++ [l]) := by
  intro i j a b hij ha hb
  rw [List.getElem?_append] at ha hb
  split at ha
  · next hi =>
    split at hb
    · exact h i j a b hij ha hb
    · have hbl : b = l := by
        have hmem := List.mem_of_getElem? hb
        simpa using hmem
      rw [hbl]
      exact hsymm _ _ (hl a (List.mem_of_getElem? ha))
  · next hi =>
    have hal : a = l := by
      have hmem := List.mem_of_getElem? ha
      simpa using hmem
    split at hb
    · rw [hal]
      exact hl b (List.mem_of_getElem? hb)
    · next hj =>
      -- Only one position is beyond the old list.
      have hi' : i - ls.length < 1 := by
        have hsome := (List.getElem?_eq_some_iff.mp ha).1
        simpa using hsome
      have hj' : j - ls.length < 1 := by
        have hsome := (List.getElem?_eq_some_iff.mp hb).1
        simpa using hsome
      omega

/-- Where the positions of a list after a replacement come from: the replaced call, or
another position of the old list. -/
theorem getElem?_replaceLocal {i j : Nat} {next : Option Local} {m : Local}
    (h : (replaceLocal ls i next)[j]? = some m) :
    (j = i ∧ next = some m) ∨ ∃ k, k ≠ i ∧ ls[k]? = some m ∧
      (next = none → k = if j < i then j else j + 1) ∧ (next ≠ none → k = j) := by
  cases next with
  | none =>
      have herase : (ls.eraseIdx i)[j]? = some m := h
      rw [List.getElem?_eraseIdx] at herase
      split at herase
      · next hlt => exact Or.inr ⟨j, by omega, herase, by simp [hlt], by simp⟩
      · next hge => exact Or.inr ⟨j + 1, by omega, herase, by simp [hge], by simp⟩
  | some l =>
      have hset : (ls.set i l)[j]? = some m := h
      rw [List.getElem?_set] at hset
      split at hset
      · next heq =>
        split at hset
        · exact Or.inl ⟨heq.symm, hset⟩
        · cases hset
      · next hne => exact Or.inr ⟨j, fun heq => hne heq.symm, hset, by simp, by simp⟩

theorem PairsApart.replaceLocal (h : PairsApart Apart ls) (hsymm : ∀ l m, Apart l m → Apart m l) {i : Nat}
    {next : Option Local}
    (hnext : ∀ (l : Local) (k : Nat) (m : Local), next = some l → k ≠ i →
      ls[k]? = some m → Apart l m) :
    PairsApart Apart (Interleaving.replaceLocal ls i next) := by
  intro a b l m hab hl hm
  rcases getElem?_replaceLocal hl with ⟨ha, hnl⟩ | ⟨ka, hka, hla, hanone, hasome⟩
  · rcases getElem?_replaceLocal hm with ⟨hb, -⟩ | ⟨kb, hkb, hmb, -, -⟩
    · exact absurd (ha.trans hb.symm) hab
    · exact hnext l kb m hnl hkb hmb
  · rcases getElem?_replaceLocal hm with ⟨hb, hnm⟩ | ⟨kb, hkb, hmb, hbnone, hbsome⟩
    · exact hsymm _ _ (hnext m ka l hnm hka hla)
    · refine h ka kb l m ?_ hla hmb
      by_cases hnone : next = none
      · rw [hanone hnone, hbnone hnone]
        split
        · split
          · omega
          · omega
        · split
          · omega
          · omega
      · rw [hasome hnone, hbsome hnone]
        exact hab

end Lists

namespace Program

variable {P : Program Shared Local Env Input} {w w' : World Shared Local}
  {ok : World Shared Local → Event Env Local Input → Prop}
  {I : Shared → Prop} {L : Shared → Local → Prop} {Apart : Local → Local → Prop}

/-- One step of the system keeps the invariant, every call's assertion and that the calls
are apart, when

* the environment keeps the invariant and the assertions,
* a new call satisfies its assertion where it begins and is apart from the others,
* a step of a call keeps the invariant, establishes the assertion of the place it leaves
  the call at, and for every call that is apart from it keeps the assertion and that the
  two are apart. -/
theorem step_inv_apart (hsymm : ∀ l m, Apart l m → Apart m l)
    (henv : ∀ sh e, I sh → I (P.env sh e) ∧ ∀ m, L sh m → L (P.env sh e) m)
    (hspawn : ∀ w l, I w.shared → ok w (.spawn l) → P.initial l = true →
      L w.shared l ∧ ∀ m ∈ w.locals, L w.shared m → Apart l m)
    (hadvance : ∀ w i input l sh l', I w.shared → L w.shared l →
      ok w (.advance i input) → w.locals[i]? = some l →
      P.advance w.shared input l = some (sh, l') →
      I sh ∧ (∀ m, l' = some m → L sh m) ∧
        ∀ m, Apart l m → L w.shared m → L sh m ∧ ∀ n, l' = some n → Apart n m)
    {ev : Event Env Local Input} (hI : I w.shared) (hL : ∀ m ∈ w.locals, L w.shared m)
    (hpairs : PairsApart Apart w.locals) (hok : ok w ev) (h : P.step w ev w') :
    I w'.shared ∧ (∀ m ∈ w'.locals, L w'.shared m) ∧ PairsApart Apart w'.locals := by
  rcases step_cases h with ⟨e, -, rfl⟩ | ⟨l, rfl, hl, rfl⟩ |
    ⟨i, input, l, sh, l', rfl, hl, hadv, rfl⟩
  · obtain ⟨hI', hkeep⟩ := henv w.shared e hI
    exact ⟨hI', fun m hm => hkeep m (hL m hm), hpairs⟩
  · obtain ⟨hnew, hapart⟩ := hspawn w l hI hok hl
    refine ⟨hI, fun m hm => ?_, hpairs.append_one hsymm fun m hm => hapart m hm (hL m hm)⟩
    rcases List.mem_append.mp hm with hmem | hmem
    · exact hL m hmem
    · rw [List.mem_singleton.mp hmem]
      exact hnew
  · have hmem : l ∈ w.locals := List.mem_of_getElem? hl
    obtain ⟨hI', hnew, hkeep⟩ := hadvance w i input l sh l' hI (hL l hmem) hok hl hadv
    have hother : ∀ k m, k ≠ i → w.locals[k]? = some m →
        L sh m ∧ ∀ n, l' = some n → Apart n m := by
      intro k m hk hm
      exact hkeep m (hpairs i k l m hk.symm hl hm) (hL m (List.mem_of_getElem? hm))
    refine ⟨hI', fun m hm => ?_, hpairs.replaceLocal hsymm fun n k m hn hk hm =>
      (hother k m hk hm).2 n hn⟩
    obtain ⟨j, hj⟩ := List.mem_iff_getElem?.mp hm
    rcases getElem?_replaceLocal hj with ⟨-, hn⟩ | ⟨k, hk, hkm, -, -⟩
    · exact hnew m hn
    · exact (hother k m hk hkm).1

/-- The interleaving rule for calls that are apart. -/
theorem reachable_inv_apart {init : World Shared Local → Prop} (hsymm : ∀ l m, Apart l m → Apart m l)
    (hinit : ∀ w, init w → I w.shared ∧ (∀ m ∈ w.locals, L w.shared m) ∧
      PairsApart Apart w.locals)
    (henv : ∀ sh e, I sh → I (P.env sh e) ∧ ∀ m, L sh m → L (P.env sh e) m)
    (hspawn : ∀ w l, I w.shared → ok w (.spawn l) → P.initial l = true →
      L w.shared l ∧ ∀ m ∈ w.locals, L w.shared m → Apart l m)
    (hadvance : ∀ w i input l sh l', I w.shared → L w.shared l →
      ok w (.advance i input) → w.locals[i]? = some l →
      P.advance w.shared input l = some (sh, l') →
      I sh ∧ (∀ m, l' = some m → L sh m) ∧
        ∀ m, Apart l m → L w.shared m → L sh m ∧ ∀ n, l' = some n → Apart n m)
    (hr : Reachable init (Guarded ok P.step) w) :
    I w.shared ∧ (∀ m ∈ w.locals, L w.shared m) ∧ PairsApart Apart w.locals :=
  hr.invariant
    (fun w => I w.shared ∧ (∀ m ∈ w.locals, L w.shared m) ∧ PairsApart Apart w.locals) hinit
    fun _ _ _ hinv hstep =>
      step_inv_apart hsymm henv hspawn hadvance hinv.1 hinv.2.1 hinv.2.2 hstep.1 hstep.2

end Program

end AvantimePlatform.Interleaving
