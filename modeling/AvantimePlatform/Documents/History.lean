import AvantimePlatform.Lib.InterleavingPairs
import AvantimePlatform.Lib.Text

/-!
# The history of questions

`POST` and `DELETE` of `api/documents/history/route.ts` over `LocalDocumentHistoryRepository`,
for the requests of one tenant.  A request lists the history, changes the list and saves
it, and other requests may run between the two.

* `kept_replay`: an item of a history is there after any answers, unless one of them
  deletes it, clears the history or is the hundredth to push it out.
* `history_keeps_items`: where a request saves the list that is still stored, the stored
  history is the replay of the answers, and nothing is lost.
-/

namespace AvantimePlatform.Documents.History

open AvantimePlatform.Transition AvantimePlatform.Interleaving

variable {Sources : Type}

/-! ## The source -/

/-- `DocumentHistoryItem`, with the resolved sources as one value. -/
structure DocumentHistoryItem (Sources : Type) where
  id : String
  question : String
  answer : String
  sources : Sources
  createdAt : String
deriving DecidableEq

/-- A request that was answered with success.  A clear says how many answers there were
when it began. -/
inductive Answer (Sources : Type) where
  | posted (item : DocumentHistoryItem Sources)
  | deleted (id : String)
  | cleared (begun : Nat)
deriving DecidableEq

/-- The file `knowledge-history.json`, newest item first.  The answers, oldest first, and
the ids that were ever in use are for the statements. -/
structure HistoryStore (Sources : Type) where
  stored : List (DocumentHistoryItem Sources)
  answers : List (Answer Sources)
  issued : List String
deriving DecidableEq

/-- A request before its `list`, or with what it is about to save and how many answers
there were when it listed. -/
inductive HistoryRequest (Sources : Type) where
  | post (question answer : Option String)
  | delete (id : Option String)
  | savePost (item : DocumentHistoryItem Sources) (history : List (DocumentHistoryItem Sources))
      (begun : Nat)
  | saveClear (begun : Nat)
  | saveDelete (id : String) (history : List (DocumentHistoryItem Sources)) (begun : Nat)
deriving DecidableEq

/-- What a step gets from outside: nothing, a failure of the storage, or the id, the
sources and the date of a new item. -/
inductive HistoryInput (Sources : Type) where
  | done
  | failed
  | listed (id : String) (sources : Sources) (createdAt : String)
deriving DecidableEq

/-- The test on the body of a `POST`. -/
def isRefused (question answer : String) : Bool :=
  question == "" || answer == "" || decide (4000 < Text.utf16Length question) ||
    decide (40000 < Text.utf16Length answer)

namespace HistoryStore

/-- Save a list and answer. -/
def save (s : HistoryStore Sources) (history : List (DocumentHistoryItem Sources))
    (answer : Answer Sources) : HistoryStore Sources :=
  { s with stored := history, answers := s.answers ++ [answer] }

/-- One step of a request. -/
def advance (s : HistoryStore Sources) :
    HistoryInput Sources → HistoryRequest Sources →
      Option (HistoryStore Sources × Option (HistoryRequest Sources))
  | .failed, _ => some (s, none)
  | .listed id sources createdAt, .post question answer =>
    let question := Text.trim (question.getD "")
    let answer := Text.trim (answer.getD "")
    if isRefused question answer then some (s, none)
    else
      let item : DocumentHistoryItem Sources :=
        { id := id, question := question, answer := answer, sources := sources,
          createdAt := createdAt }
      some ({ s with issued := id :: s.issued }, some (.savePost item s.stored s.answers.length))
  | .done, .savePost item history _ =>
    some (s.save ((item :: history).take 100) (.posted item), none)
  | .done, .delete id =>
    match id.filter (· != "") with
    | none => some (s, some (.saveClear s.answers.length))
    | some id =>
      let history := s.stored.filter fun item => item.id != id
      if history.length = s.stored.length then some (s, none)
      else some (s, some (.saveDelete id history s.answers.length))
  | .done, .saveClear begun => some (s.save [] (.cleared begun), none)
  | .done, .saveDelete id history _ => some (s.save history (.deleted id), none)
  | _, _ => none

end HistoryStore

/-- A request begins before its `list`. -/
def begins : HistoryRequest Sources → Bool
  | .post _ _ | .delete _ => true
  | .savePost _ _ _ | .saveClear _ | .saveDelete _ _ _ => false

/-- The requests of a tenant. -/
def historyRequests (Sources : Type) :
    Program (HistoryStore Sources) (HistoryRequest Sources) Empty (HistoryInput Sources) where
  env s _ := s
  initial := begins
  advance s input request := s.advance input request

/-- Any file, before the first request. -/
def IsStart (w : World (HistoryStore Sources) (HistoryRequest Sources)) : Prop :=
  w.shared.answers = [] ∧ w.shared.issued = w.shared.stored.map DocumentHistoryItem.id ∧
    w.locals = []

/-- `crypto.randomUUID()` has given the id to nobody else. -/
def HasNewId (w : World (HistoryStore Sources) (HistoryRequest Sources)) :
    Event Empty (HistoryRequest Sources) (HistoryInput Sources) → Prop
  | .advance _ (.listed id _ _) => id ∉ w.shared.issued
  | _ => True

instance (w : World (HistoryStore Sources) (HistoryRequest Sources))
    (event : Event Empty (HistoryRequest Sources) (HistoryInput Sources)) :
    Decidable (HasNewId w event) :=
  match event with
  | .advance _ (.listed _ _ _) => inferInstanceAs (Decidable (_ ∉ _))
  | .advance _ .done | .advance _ .failed | .spawn _ | .env _ => inferInstanceAs (Decidable True)

/-- How many answers there were when a request listed what it is about to save. -/
def HistoryRequest.begun? : HistoryRequest Sources → Option Nat
  | .savePost _ _ begun | .saveClear begun | .saveDelete _ _ begun => some begun
  | .post _ _ | .delete _ => none

/-- No other request has saved since the request that saves has listed. -/
def SavesWhatItListed (w : World (HistoryStore Sources) (HistoryRequest Sources)) :
    Event Empty (HistoryRequest Sources) (HistoryInput Sources) → Prop
  | .advance i .done =>
    ∀ begun ∈ w.locals[i]?.bind HistoryRequest.begun?, begun = w.shared.answers.length
  | _ => True

instance (w : World (HistoryStore Sources) (HistoryRequest Sources))
    (event : Event Empty (HistoryRequest Sources) (HistoryInput Sources)) :
    Decidable (SavesWhatItListed w event) :=
  match event with
  | .advance _ .done => inferInstanceAs (Decidable (∀ begun ∈ _, begun = _))
  | .advance _ (.listed _ _ _) | .advance _ .failed | .spawn _ | .env _ =>
    inferInstanceAs (Decidable True)

/-! ## What the history should be -/

/-- The history after an answer. -/
def applyAnswer (history : List (DocumentHistoryItem Sources)) :
    Answer Sources → List (DocumentHistoryItem Sources)
  | .posted item => (item :: history).take 100
  | .deleted id => history.filter fun item => item.id != id
  | .cleared _ => []

/-- The history after some answers. -/
def replay (history : List (DocumentHistoryItem Sources)) (answers : List (Answer Sources)) :
    List (DocumentHistoryItem Sources) :=
  answers.foldl applyAnswer history

/-- Every item whose `POST` was answered is stored, unless its id was deleted, a clear that
began later removed it, or there have been a hundred newer items at some time. -/
def NothingLost (s : HistoryStore Sources) : Prop :=
  ∀ before item after, s.answers = before ++ .posted item :: after →
    item ∈ s.stored ∨ .deleted item.id ∈ after ∨
    (∃ begun, .cleared begun ∈ after ∧ before.length < begun) ∨
    ∃ part, part <+: after ∧ (replay [] part).length = 100

/-- No deleted item is stored. -/
def StaysDeleted (s : HistoryStore Sources) : Prop :=
  ∀ id, .deleted id ∈ s.answers → ∀ item ∈ s.stored, item.id ≠ id

/-! ## Replaying the answers -/

section Replay

variable {item : DocumentHistoryItem Sources} {newer older : List (DocumentHistoryItem Sources)}

theorem replay_append (history : List (DocumentHistoryItem Sources))
    (first second : List (Answer Sources)) :
    replay history (first ++ second) = replay (replay history first) second :=
  List.foldl_append

theorem replay_cons (history : List (DocumentHistoryItem Sources)) (answer : Answer Sources)
    (answers : List (Answer Sources)) :
    replay history (answer :: answers) = replay (applyAnswer history answer) answers := rfl

/-- An item of a history stays in it, unless it is deleted, the history is cleared, or
there are a hundred newer ones. -/
theorem kept_replay (answers : List (Answer Sources)) (hnewer : newer.length < 100) :
    item ∈ replay (newer ++ item :: older) answers ∨ .deleted item.id ∈ answers ∨
    (∃ begun, .cleared begun ∈ answers) ∨
    ∃ part, part <+: answers ∧ (replay newer part).length = 100 := by
  induction answers generalizing newer older with
  | nil => exact Or.inl (List.mem_append_right newer List.mem_cons_self)
  | cons answer answers ih =>
      have hlater : ∀ newer' older', applyAnswer newer answer = newer' →
          applyAnswer (newer ++ item :: older) answer = newer' ++ item :: older' →
          newer'.length < 100 →
          item ∈ replay (newer ++ item :: older) (answer :: answers) ∨
          .deleted item.id ∈ answer :: answers ∨
          (∃ begun, .cleared begun ∈ answer :: answers) ∨
          ∃ part, part <+: answer :: answers ∧ (replay newer part).length = 100 := by
        intro newer' older' happly hhistory hshort
        rw [replay_cons, hhistory]
        have hrest : item ∈ replay (newer' ++ item :: older') answers ∨ _ := ih hshort
        rcases hrest with hkept | hdeleted | ⟨begun, hcleared⟩ | ⟨part, hpart, hfull⟩
        · exact Or.inl hkept
        · exact Or.inr (Or.inl (List.mem_cons_of_mem answer hdeleted))
        · exact Or.inr (Or.inr (Or.inl ⟨begun, List.mem_cons_of_mem answer hcleared⟩))
        · refine Or.inr (Or.inr (Or.inr ⟨answer :: part, ?_, ?_⟩))
          · exact List.cons_prefix_cons.mpr ⟨rfl, hpart⟩
          · rw [replay_cons, happly]
            exact hfull
      cases answer with
      | posted other =>
          by_cases hroom : newer.length + 1 < 100
          · refine hlater (other :: newer) (older.take (99 - (newer.length + 1))) ?_ ?_ ?_
            · exact List.take_of_length_le (by rw [List.length_cons]; omega)
            · show ((other :: newer) ++ item :: older).take 100 = _
              rw [List.take_append, List.take_of_length_le, List.length_cons]
              · have hleft : 100 - (newer.length + 1) = (99 - (newer.length + 1)) + 1 := by omega
                rw [hleft, List.take_succ_cons]
              · rw [List.length_cons]
                omega
            · rw [List.length_cons]
              omega
          · refine Or.inr (Or.inr (Or.inr ⟨[.posted other], ?_, ?_⟩))
            · exact List.cons_prefix_cons.mpr ⟨rfl, List.nil_prefix⟩
            · show ((other :: newer).take 100).length = 100
              rw [List.length_take, List.length_cons]
              omega
      | deleted id =>
          by_cases hid : item.id = id
          · rw [hid]
            exact Or.inr (Or.inl List.mem_cons_self)
          · refine hlater (newer.filter fun other => other.id != id)
              (older.filter fun other => other.id != id) rfl ?_ ?_
            · show (newer ++ item :: older).filter _ = _
              rw [List.filter_append, List.filter_cons_of_pos (by simpa using hid)]
            · exact Nat.lt_of_le_of_lt (List.length_filter_le _ newer) hnewer
      | cleared begun => exact Or.inr (Or.inr (Or.inl ⟨begun, List.mem_cons_self⟩))

end Replay

/-! ## The invariant -/

section Invariant

variable {s s' : HistoryStore Sources} {l m : HistoryRequest Sources}
  {next : Option (HistoryRequest Sources)} {input : HistoryInput Sources}

/-- What holds of the file and the answers while every request saves what it listed. -/
structure HistoryStore.Sound (s : HistoryStore Sources) : Prop where
  replayed : ∃ start, s.stored = replay start s.answers
  cleared : ∀ before begun after, s.answers = before ++ .cleared begun :: after →
    before.length ≤ begun
  stays : StaysDeleted s
  deleted : ∀ id, .deleted id ∈ s.answers → id ∈ s.issued
  ids : ∀ item ∈ s.stored, item.id ∈ s.issued

/-- What a request that is about to save has listed, as long as nobody else saves. -/
def HistoryStore.Expects (s : HistoryStore Sources) : HistoryRequest Sources → Prop
  | .post _ _ | .delete _ | .saveClear _ => True
  | .savePost item history begun =>
    begun ≤ s.answers.length ∧ item.id ∈ s.issued ∧ (∀ other ∈ s.stored, other.id ≠ item.id) ∧
      .deleted item.id ∉ s.answers ∧ (begun = s.answers.length → history = s.stored)
  | .saveDelete id history begun =>
    begun ≤ s.answers.length ∧ id ∈ s.issued ∧
      (begun = s.answers.length → history = s.stored.filter fun item => item.id != id)

/-- A new item is none of the other new ones, and not what a request deletes. -/
def Apart : HistoryRequest Sources → HistoryRequest Sources → Prop
  | .savePost item _ _, .savePost other _ _ => item.id ≠ other.id
  | .savePost item _ _, .saveDelete id _ _ => item.id ≠ id
  | .saveDelete id _ _, .savePost item _ _ => item.id ≠ id
  | _, _ => True

theorem apart_symm (l m : HistoryRequest Sources) (h : Apart l m) : Apart m l := by
  cases l with
  | savePost item history begun =>
      cases m with
      | savePost other _ _ => exact Ne.symm h
      | saveDelete id _ _ => exact h
      | post _ _ => trivial
      | delete _ => trivial
      | saveClear _ => trivial
  | saveDelete id history begun =>
      cases m with
      | savePost other _ _ => exact h
      | saveDelete id _ _ => trivial
      | post _ _ => trivial
      | delete _ => trivial
      | saveClear _ => trivial
  | post _ _ => cases m <;> trivial
  | delete _ => cases m <;> trivial
  | saveClear _ => cases m <;> trivial

/-- A step keeps the invariant, and what the requests that are apart expect. -/
def Keeps (l : HistoryRequest Sources) (s s' : HistoryStore Sources)
    (next : Option (HistoryRequest Sources)) : Prop :=
  s'.Sound ∧ (∀ n, next = some n → s'.Expects n) ∧
    ∀ m, Apart l m → s.Expects m → s'.Expects m ∧ ∀ n, next = some n → Apart n m

theorem keeps_ended (hs : s.Sound) : Keeps l s s none :=
  ⟨hs, by simp, fun m _ hm => ⟨hm, by simp⟩⟩

/-- A save that does to the stored list what its answer says. -/
theorem HistoryStore.Sound.save {history : List (DocumentHistoryItem Sources)}
    {answer : Answer Sources} (hs : s.Sound) (happly : history = applyAnswer s.stored answer)
    (hcleared : ∀ begun, answer = .cleared begun → s.answers.length ≤ begun)
    (hstays : ∀ id, .deleted id ∈ s.answers ++ [answer] → ∀ item ∈ history, item.id ≠ id)
    (hdeleted : ∀ id, answer = .deleted id → id ∈ s.issued)
    (hids : ∀ item ∈ history, item.id ∈ s.issued) : (s.save history answer).Sound where
  replayed := by
    obtain ⟨start, hstart⟩ := hs.replayed
    refine ⟨start, ?_⟩
    show history = replay start (s.answers ++ [answer])
    rw [replay_append, ← hstart]
    exact happly
  cleared := by
    intro before begun after hanswers
    have hsplit : s.answers ++ [answer] = before ++ .cleared begun :: after := hanswers
    rcases List.eq_nil_or_concat after with rfl | ⟨after, last, rfl⟩
    · obtain ⟨hbefore, hlast⟩ := List.append_inj' hsplit rfl
      rw [← hbefore]
      exact hcleared begun (List.cons.inj hlast).1
    · rw [List.concat_eq_append, ← List.cons_append, ← List.append_assoc] at hsplit
      exact hs.cleared before begun after (List.append_inj' hsplit rfl).1
  stays := hstays
  deleted := by
    intro id hid
    rcases List.mem_append.mp hid with hold | hnew
    · exact hs.deleted id hold
    · exact hdeleted id (List.mem_singleton.mp hnew).symm
  ids := hids

/-- A save leaves the others what they expect, if it saves and deletes no new item. -/
theorem expects_save {history : List (DocumentHistoryItem Sources)} {answer : Answer Sources}
    (hm : s.Expects m)
    (hnew : ∀ item listed begun, m = .savePost item listed begun →
      (∀ other ∈ history, other.id ≠ item.id) ∧ answer ≠ .deleted item.id) :
    (s.save history answer).Expects m := by
  have hlength : (s.save history answer).answers.length = s.answers.length + 1 :=
    List.length_append
  cases m with
  | post question answer => trivial
  | delete id => trivial
  | saveClear begun => trivial
  | savePost item listed begun =>
      obtain ⟨hbegun, hissued, -, hdeleted, -⟩ := hm
      obtain ⟨hother, hanswer⟩ := hnew item listed begun rfl
      refine ⟨by omega, hissued, hother, ?_, fun hsame => by omega⟩
      intro hmem
      rcases List.mem_append.mp hmem with hmem | hmem
      · exact hdeleted hmem
      · exact hanswer (List.mem_singleton.mp hmem).symm
  | saveDelete id listed begun =>
      obtain ⟨hbegun, hissued, -⟩ := hm
      exact ⟨by omega, hissued, fun hsame => by omega⟩

theorem keeps_savePost {item : DocumentHistoryItem Sources}
    {history : List (DocumentHistoryItem Sources)} {begun : Nat} (hs : s.Sound)
    (hl : s.Expects (.savePost item history begun)) (hbegun : begun = s.answers.length) :
    Keeps (.savePost item history begun) s
      (s.save ((item :: history).take 100) (.posted item)) none := by
  obtain ⟨-, hissued, hother, hdeleted, hlisted⟩ := hl
  rw [hlisted hbegun]
  have hmem : ∀ other ∈ (item :: s.stored).take 100, other = item ∨ other ∈ s.stored :=
    fun other hother => List.mem_cons.mp (List.mem_of_mem_take hother)
  refine ⟨hs.save rfl (by simp) ?_ (by simp) ?_, by simp,
    fun m hapart hm => ⟨expects_save hm ?_, by simp⟩⟩
  · intro id hid other hstored
    have hold : .deleted id ∈ s.answers := by simpa using hid
    rcases hmem other hstored with rfl | hstored
    · rintro rfl
      exact hdeleted hold
    · exact hs.stays id hold other hstored
  · intro other hstored
    rcases hmem other hstored with rfl | hstored
    · exact hissued
    · exact hs.ids other hstored
  · rintro new listed begun' rfl
    refine ⟨fun other hstored => ?_, by simp⟩
    rcases hmem other hstored with rfl | hstored
    · exact hapart
    · exact hm.2.2.1 other hstored

theorem keeps_saveClear {begun : Nat} (hs : s.Sound) (hbegun : begun = s.answers.length) :
    Keeps (.saveClear begun) s (s.save [] (.cleared begun)) none := by
  refine ⟨hs.save rfl ?_ (by simp) (by simp) (by simp), by simp,
    fun m _ hm => ⟨expects_save hm ?_, by simp⟩⟩
  · intro other hother
    injection hother with hother
    omega
  · exact fun _ _ _ _ => ⟨by simp, by simp⟩

theorem keeps_saveDelete {id : String} {history : List (DocumentHistoryItem Sources)}
    {begun : Nat} (hs : s.Sound) (hl : s.Expects (.saveDelete id history begun))
    (hbegun : begun = s.answers.length) :
    Keeps (.saveDelete id history begun) s (s.save history (.deleted id)) none := by
  obtain ⟨-, hissued, hlisted⟩ := hl
  rw [hlisted hbegun]
  refine ⟨hs.save rfl (by simp) ?_ ?_ ?_, by simp,
    fun m hapart hm => ⟨expects_save hm ?_, by simp⟩⟩
  · intro other hother item hitem
    obtain ⟨hstored, hne⟩ := List.mem_filter.mp hitem
    rcases List.mem_append.mp hother with hold | hnew
    · exact hs.stays other hold item hstored
    · injection List.mem_singleton.mp hnew with hsame
      rw [hsame]
      simpa using hne
  · rintro other ⟨⟩
    exact hissued
  · exact fun item hitem => hs.ids item (List.mem_of_mem_filter hitem)
  · rintro new listed begun' rfl
    refine ⟨fun other hother => hm.2.2.1 other (List.mem_of_mem_filter hother), ?_⟩
    rintro ⟨⟩
    exact hapart rfl

theorem expects_issue {id : String} (hm : s.Expects m) :
    ({ s with issued := id :: s.issued } : HistoryStore Sources).Expects m := by
  cases m with
  | post question answer => trivial
  | delete id => trivial
  | saveClear begun => trivial
  | savePost item listed begun =>
      obtain ⟨hbegun, hissued, hrest⟩ := hm
      exact ⟨hbegun, List.mem_cons_of_mem id hissued, hrest⟩
  | saveDelete other listed begun =>
      obtain ⟨hbegun, hissued, hrest⟩ := hm
      exact ⟨hbegun, List.mem_cons_of_mem id hissued, hrest⟩

/-- An id that was never in use is apart from those of the requests. -/
theorem apart_savePost {item : DocumentHistoryItem Sources}
    {history : List (DocumentHistoryItem Sources)} {begun : Nat} (hid : item.id ∉ s.issued)
    (hm : s.Expects m) : Apart (.savePost item history begun) m := by
  cases m with
  | post question answer => trivial
  | delete id => trivial
  | saveClear begun => trivial
  | savePost other listed begun =>
      intro hsame
      rw [hsame] at hid
      exact hid hm.2.1
  | saveDelete id listed begun =>
      intro hsame
      rw [hsame] at hid
      exact hid hm.2.1

/-- A new item is one that nobody has. -/
theorem keeps_post {question answer : Option String} {id createdAt : String} {sources : Sources}
    (hs : s.Sound) (hid : id ∉ s.issued)
    (h : s.advance (.listed id sources createdAt) (.post question answer) = some (s', next)) :
    Keeps (.post question answer) s s' next := by
  simp only [HistoryStore.advance] at h
  split at h
  · obtain ⟨rfl, rfl⟩ := Prod.mk.inj (Option.some.inj h)
    exact keeps_ended hs
  · obtain ⟨rfl, rfl⟩ := Prod.mk.inj (Option.some.inj h)
    refine ⟨⟨hs.replayed, hs.cleared, hs.stays, ?_, ?_⟩, ?_,
      fun m _ hm => ⟨expects_issue hm, ?_⟩⟩
    · exact fun other hother => List.mem_cons_of_mem id (hs.deleted other hother)
    · exact fun item hitem => List.mem_cons_of_mem id (hs.ids item hitem)
    · intro n hn
      rw [← Option.some.inj hn]
      refine ⟨le_refl _, List.mem_cons_self, ?_, fun hdeleted => ?_, fun _ => rfl⟩
      · intro other hother hsame
        have hissued := hs.ids other hother
        rw [hsame] at hissued
        exact hid hissued
      · exact hid (hs.deleted id hdeleted)
    · intro n hn
      rw [← Option.some.inj hn]
      exact apart_savePost hid hm

/-- A delete of one item finds it in the list, so that it is not a new one. -/
theorem keeps_delete {id : Option String} (hs : s.Sound)
    (h : s.advance .done (.delete id) = some (s', next)) : Keeps (.delete id) s s' next := by
  simp only [HistoryStore.advance] at h
  split at h
  · obtain ⟨rfl, rfl⟩ := Prod.mk.inj (Option.some.inj h)
    refine ⟨hs, fun n hn => ?_, fun m _ hm => ⟨hm, fun n hn => ?_⟩⟩
    · rw [← Option.some.inj hn]
      trivial
    · rw [← Option.some.inj hn]
      cases m <;> trivial
  · next id _ =>
      split at h
      · obtain ⟨rfl, rfl⟩ := Prod.mk.inj (Option.some.inj h)
        exact keeps_ended hs
      · next hfound =>
          obtain ⟨rfl, rfl⟩ := Prod.mk.inj (Option.some.inj h)
          have hstored : ∃ item ∈ s.stored, item.id = id := by
            by_contra hnone
            apply hfound
            rw [List.filter_eq_self.mpr]
            intro item hitem
            simpa using fun hsame => hnone ⟨item, hitem, hsame⟩
          obtain ⟨item, hitem, hid⟩ := hstored
          refine ⟨hs, fun n hn => ?_, fun m _ hm => ⟨hm, fun n hn => ?_⟩⟩
          · rw [← Option.some.inj hn]
            have hissued := hs.ids item hitem
            rw [hid] at hissued
            exact ⟨le_refl _, hissued, fun _ => rfl⟩
          · rw [← Option.some.inj hn]
            cases m with
            | savePost other listed begun =>
                have hother := hm.2.2.1 item hitem
                rw [hid] at hother
                exact hother.symm
            | post question answer => trivial
            | delete other => trivial
            | saveClear begun => trivial
            | saveDelete other listed begun => trivial

/-- Every step of a request keeps the invariant and what the others expect. -/
theorem keeps_advance (hs : s.Sound) (hl : s.Expects l)
    (hid : ∀ id sources createdAt, input = .listed id sources createdAt → id ∉ s.issued)
    (hbegun : ∀ begun, input = .done → l.begun? = some begun → begun = s.answers.length)
    (h : s.advance input l = some (s', next)) : Keeps l s s' next := by
  cases input with
  | failed =>
      obtain ⟨rfl, rfl⟩ := Prod.mk.inj (Option.some.inj h)
      exact keeps_ended hs
  | listed id sources createdAt =>
      cases l with
      | post question answer => exact keeps_post hs (hid id sources createdAt rfl) h
      | delete id => cases h
      | savePost item history begun => cases h
      | saveClear begun => cases h
      | saveDelete id history begun => cases h
  | done =>
      cases l with
      | post question answer => cases h
      | delete id => exact keeps_delete hs h
      | savePost item history begun =>
          obtain ⟨rfl, rfl⟩ := Prod.mk.inj (Option.some.inj h)
          exact keeps_savePost hs hl (hbegun begun rfl rfl)
      | saveClear begun =>
          obtain ⟨rfl, rfl⟩ := Prod.mk.inj (Option.some.inj h)
          exact keeps_saveClear hs (hbegun begun rfl rfl)
      | saveDelete id history begun =>
          obtain ⟨rfl, rfl⟩ := Prod.mk.inj (Option.some.inj h)
          exact keeps_saveDelete hs hl (hbegun begun rfl rfl)

/-- What is replayed is not lost. -/
theorem HistoryStore.Sound.nothingLost (hs : s.Sound) : NothingLost s := by
  intro before item after hanswers
  obtain ⟨start, hstart⟩ := hs.replayed
  have hstored : s.stored =
      replay ([] ++ item :: (replay start before).take 99) after := by
    rw [hstart, hanswers, replay_append, replay_cons]
    rfl
  have hlength : ([] : List (DocumentHistoryItem Sources)).length < 100 := by simp
  rcases kept_replay after hlength with hkept | hdeleted | ⟨begun, hcleared⟩ | hfull
  · rw [← hstored] at hkept
    exact Or.inl hkept
  · exact Or.inr (Or.inl hdeleted)
  · obtain ⟨first, last, rfl⟩ := List.append_of_mem hcleared
    have hbegun := hs.cleared (before ++ .posted item :: first) begun last
      (by rw [hanswers, List.append_assoc, List.cons_append])
    rw [List.length_append, List.length_cons] at hbegun
    exact Or.inr (Or.inr (Or.inl ⟨begun, hcleared, by omega⟩))
  · exact Or.inr (Or.inr (Or.inr hfull))

end Invariant

/-! ## Whole runs -/

section Runs

variable {w : World (HistoryStore Sources) (HistoryRequest Sources)}

/-- Where every request saves before another one has saved since its `list`, no answered
question is lost, and no deleted one comes back. -/
theorem history_keeps_items
    (h : Reachable IsStart
      (Guarded (fun w event => HasNewId w event ∧ SavesWhatItListed w event)
        (historyRequests Sources).step) w) :
    NothingLost w.shared ∧ StaysDeleted w.shared := by
  have hinv := Program.reachable_inv_apart (P := historyRequests Sources)
    (I := HistoryStore.Sound) (L := HistoryStore.Expects) apart_symm
    (fun w hw => by
      obtain ⟨hanswers, hissued, hlocals⟩ := hw
      rw [hlocals]
      refine ⟨⟨⟨w.shared.stored, ?_⟩, ?_, ?_, ?_, ?_⟩, by simp, pairsApart_nil⟩
      · rw [hanswers]
        rfl
      · intro before begun after hsplit
        rw [hanswers] at hsplit
        simp at hsplit
      · intro id hid
        rw [hanswers] at hid
        cases hid
      · intro id hid
        rw [hanswers] at hid
        cases hid
      · intro item hitem
        rw [hissued]
        exact List.mem_map_of_mem hitem)
    (fun s e _ => e.elim)
    (fun w l _ _ hl => by
      cases l with
      | post question answer => exact ⟨trivial, fun m _ _ => by cases m <;> trivial⟩
      | delete id => exact ⟨trivial, fun m _ _ => by cases m <;> trivial⟩
      | savePost item history begun => cases hl
      | saveClear begun => cases hl
      | saveDelete id history begun => cases hl)
    (fun w i input l s' next hs hl hok hi hadv => by
      refine keeps_advance hs hl ?_ ?_ hadv
      · rintro id sources createdAt rfl
        exact hok.1
      · rintro begun rfl hbegun
        refine hok.2 begun ?_
        rw [hi]
        exact hbegun) h
  exact ⟨hinv.1.nothingLost, hinv.1.stays⟩

end Runs

/-! ## Two questions at the same time -/

def itemOf (id question answer : String) : DocumentHistoryItem Unit where
  id := id
  question := question
  answer := answer
  sources := ()
  createdAt := "2026-01-01T00:00:00.000Z"

/-- No history and no request. -/
def noHistory : World (HistoryStore Unit) (HistoryRequest Unit) where
  shared := { stored := [], answers := [], issued := [] }
  locals := []

theorem isStart_noHistory : IsStart noHistory := ⟨rfl, rfl, rfl⟩

/-- The list of a `POST`. -/
def lists (i : Nat) (id : String) : Event Empty (HistoryRequest Unit) (HistoryInput Unit) :=
  .advance i (.listed id () "2026-01-01T00:00:00.000Z")

/-- Two questions, one after the other. -/
theorem history_keeps_two_items :
    ∃ w, (Reachable IsStart
        (Guarded (fun w event => HasNewId w event ∧ SavesWhatItListed w event)
          (historyRequests Unit).step) w ∧
      w.shared.stored = [itemOf "2" "why" "so", itemOf "1" "what" "this"]) ∧
      NothingLost w.shared ∧ StaysDeleted w.shared := by
  obtain ⟨w, hw, hstored⟩ := exists_guarded_of_exec_guarded
    (fun w event => HasNewId w event ∧ SavesWhatItListed w event)
    (fun w : World (HistoryStore Unit) (HistoryRequest Unit) =>
      w.shared.stored = [itemOf "2" "why" "so", itemOf "1" "what" "this"])
    (historyRequests Unit).next
    [.spawn (.post (some "what") (some "this")), lists 0 "1", .advance 0 .done,
      .spawn (.post (some "why") (some "so")), lists 0 "2", .advance 0 .done]
    isStart_noHistory (by decide)
  exact ⟨w, ⟨hw, hstored⟩, history_keeps_items hw⟩

/-- Two questions of which the second lists before the first is saved. -/
theorem history_loses_item :
    ∃ w, Reachable IsStart (Guarded HasNewId (historyRequests Unit).step) w ∧ w.Quiescent ∧
      ¬NothingLost w.shared := by
  obtain ⟨w, hw, hquiescent, hshared⟩ := exists_guarded_of_exec_guarded HasNewId
    (fun w : World (HistoryStore Unit) (HistoryRequest Unit) => w.Quiescent ∧
      w.shared.stored = [itemOf "2" "why" "so"] ∧
      w.shared.answers = [.posted (itemOf "1" "what" "this"), .posted (itemOf "2" "why" "so")])
    (historyRequests Unit).next
    [.spawn (.post (some "what") (some "this")), .spawn (.post (some "why") (some "so")),
      lists 0 "1", lists 1 "2", .advance 0 .done, .advance 0 .done]
    isStart_noHistory (by decide)
  refine ⟨w, hw, hquiescent, fun hkept => ?_⟩
  rcases hkept [] _ _ hshared.2 with hstored | hdeleted | ⟨begun, hcleared, -⟩ |
    ⟨part, hpart, hfull⟩
  · rw [hshared.1] at hstored
    exact absurd hstored (by decide)
  · exact absurd hdeleted (by decide)
  · exact absurd hcleared (by simp)
  · rcases List.prefix_cons_iff.mp hpart with rfl | ⟨rest, rfl, hrest⟩
    · exact absurd hfull (by decide)
    · rw [List.prefix_nil.mp hrest] at hfull
      exact absurd hfull (by decide)

end AvantimePlatform.Documents.History
