import AvantimePlatform.Lib.Transition

/-!
# Logs of runs

`log s l` is the entry that the step `l` makes from the state `s`, if any.  `logged` is what
a whole run logs.

The rule is `nodup_logged_iff`: when a step that meets a guard logs something new, and a step
that does not meet it logs something again, the runs that log nothing twice are those whose
steps all meet the guard.

Nothing here names a component of the platform.
-/

namespace AvantimePlatform.Logs

open AvantimePlatform.Transition

universe u v w

variable {State : Type u} {Label : Type v} {Entry : Type w} (log : State → Label → Option Entry)

/-- What a run logs, oldest first. -/
def logged : State → List (Label × State) → List Entry
  | _, [] => []
  | s, (l, s') :: rest => (log s l).toList ++ logged s' rest

variable {log} {step : State → Label → State → Prop} {ok : State → Label → Prop}

/-- The rule, with what has been logged before the run. -/
theorem nodup_append_logged_iff (Inv : List Entry → State → Prop)
    (hnone : ∀ past s l s', Inv past s → step s l s' → log s l = none → ok s l ∧ Inv past s')
    (hnew : ∀ past s l s' entry, Inv past s → step s l s' → log s l = some entry → ok s l →
      entry ∉ past ∧ Inv (past ++ [entry]) s')
    (hagain : ∀ past s l s' entry, Inv past s → step s l s' → log s l = some entry → ¬ok s l →
      entry ∈ past)
    {past : List Entry} {s : State} {run : List (Label × State)} (hrun : Run step s run)
    (hs : Inv past s) (hpast : past.Nodup) :
    (past ++ logged log s run).Nodup ↔ StepsMeet ok s run := by
  induction hrun generalizing past with
  | nil s =>
      rw [logged, List.append_nil]
      exact iff_of_true hpast trivial
  | @cons s s' l rest hstep _ ih =>
      cases hlog : log s l with
      | none =>
          obtain ⟨hok, hs'⟩ := hnone past s l s' hs hstep hlog
          have hrest := ih hs' hpast
          rw [logged, hlog, Option.toList_none, List.nil_append, hrest]
          exact (and_iff_right hok).symm
      | some entry =>
          rw [logged, hlog, Option.toList_some, List.singleton_append]
          by_cases hok : ok s l
          · obtain ⟨hfresh, hs'⟩ := hnew past s l s' entry hs hstep hlog hok
            have hpast' : (past ++ [entry]).Nodup :=
              List.nodup_append.mpr ⟨hpast, List.nodup_singleton entry, fun a ha b hb => by
                rw [List.mem_singleton.mp hb]
                exact fun hsame => hfresh (hsame ▸ ha)⟩
            have hrest := ih hs' hpast'
            rw [List.append_assoc, List.singleton_append] at hrest
            rw [hrest]
            exact (and_iff_right hok).symm
          · have hold : entry ∈ past := hagain past s l s' entry hs hstep hlog hok
            refine iff_of_false (fun hnodup => ?_) (fun hmeet => hok hmeet.1)
            exact (List.nodup_append.mp hnodup).2.2 entry hold entry List.mem_cons_self rfl

/-- A run logs nothing twice exactly when its steps all meet the guard. -/
theorem nodup_logged_iff (Inv : List Entry → State → Prop)
    (hnone : ∀ past s l s', Inv past s → step s l s' → log s l = none → ok s l ∧ Inv past s')
    (hnew : ∀ past s l s' entry, Inv past s → step s l s' → log s l = some entry → ok s l →
      entry ∉ past ∧ Inv (past ++ [entry]) s')
    (hagain : ∀ past s l s' entry, Inv past s → step s l s' → log s l = some entry → ¬ok s l →
      entry ∈ past)
    {s : State} {run : List (Label × State)} (hrun : Run step s run) (hs : Inv [] s) :
    (logged log s run).Nodup ↔ StepsMeet ok s run :=
  nodup_append_logged_iff Inv hnone hnew hagain hrun hs List.nodup_nil

end AvantimePlatform.Logs
