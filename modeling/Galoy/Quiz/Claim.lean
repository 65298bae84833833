/-
  Galoy.Quiz.Claim

  Concurrent `claimQuiz` calls for one account (`app/quiz/claim.ts`), with the
  quiz collection of `QuizRepository` (`services/mongoose/quiz.ts`) and its
  unique index on `(accountId, quizId)` (`services/mongoose/schema.ts`).

  A run is cut at its awaits: it starts (the IP limit, `QuizzesValue[quizId]`),
  lists the account's quizzes (`fetchAll`, then `fillQuizInformation` with the
  clock of that moment), checks `notBefore` against a later clock reading,
  adds the quiz (the unique index refuses a second document), and pays.  Every
  other await (the rate limits, the phone and IP checks, the wallets, the
  funder's balance, the payment) can fail, which ends the run.  The clock moves
  between steps.

  The unique index alone makes every quiz paid at most once, with its value, so
  the total paid is at most the sum of the values (`claimQuiz_safe`).  The
  section gate is weaker than it reads: when the last quiz of the previous
  section is missing, `notBefore` is the listing's clock plus the delay, and a
  check that reads the clock that much later passes
  (`claimQuiz_passes_gate_without_previous_section`).  In the runs whose check
  reads the clock less than `milliSecondsBetweenSections` after the listing,
  every quiz of a section `s + 1` is recorded that long after the last quiz of
  section `s`.
-/

import Galoy.Quiz.Domain
import Galoy.Lib.Transition
import Mathlib.Algebra.Order.BigOperators.Group.List
import Mathlib.Algebra.Order.Group.Nat

namespace Galoy

namespace Quiz

open Transition

-- ============================================================================
-- Runs of claimQuiz
-- ============================================================================

/-- Where a run of `claimQuiz` is. -/
inductive ClaimRun where
  /-- Past the IP limit and `QuizzesValue[quizId]`. -/
  | started (quizId : String) (amount : ℕ)
  /-- `listQuizzesByAccountId` returned `quizzesBefore`; `listedAt` is the
      clock reading of `fillQuizInformation`. -/
  | listed (quizId : String) (amount : ℕ) (listedAt : ℕ) (quizzesBefore : List QuizInfo)
  /-- Past the `notBefore` check of the listing `quizzesBefore`. -/
  | checked (quizId : String) (amount : ℕ) (quizzesBefore : List QuizInfo)
  /-- `QuizRepository().add` succeeded. -/
  | added (quizId : String) (amount : ℕ)
  | finished
  deriving DecidableEq, Repr

/-- The clock, the quiz documents of the account, the payments from the funder
    wallet to it (memo and amount), and the runs. -/
structure QuizWorld where
  now : ℕ
  records : List QuizCompleted
  paid : List (String × ℕ)
  runs : ℕ → Option ClaimRun

inductive QuizAction where
  | start (run : ℕ) (quizId : String)
  | list (run : ℕ)
  | check (run : ℕ)
  | add (run : ℕ)
  | pay (run : ℕ)
  /-- Any error return between two awaits. -/
  | fail (run : ℕ)
  | tick (elapsed : ℕ)

namespace QuizWorld

/-- An account with no quiz and no payment. -/
def initial (now : ℕ) : QuizWorld := ⟨now, [], [], fun _ => none⟩

def setRun (w : QuizWorld) (i : ℕ) (run : ClaimRun) : QuizWorld :=
  { w with runs := Function.update w.runs i (some run) }

@[simp] theorem setRun_now (w : QuizWorld) (i : ℕ) (run : ClaimRun) : (w.setRun i run).now = w.now :=
  rfl

@[simp] theorem setRun_records (w : QuizWorld) (i : ℕ) (run : ClaimRun) :
    (w.setRun i run).records = w.records :=
  rfl

@[simp] theorem setRun_paid (w : QuizWorld) (i : ℕ) (run : ClaimRun) :
    (w.setRun i run).paid = w.paid :=
  rfl

/-- `Quiz.create`: the document, with the clock as `createdAt`. -/
def addRecord (w : QuizWorld) (quizId : String) : QuizWorld :=
  { w with records := w.records ++ [⟨quizId, w.now⟩] }

/-- The payment from the funder wallet, with the quiz id as memo. -/
def addPayment (w : QuizWorld) (quizId : String) (amount : ℕ) : QuizWorld :=
  { w with paid := w.paid ++ [(quizId, amount)] }

@[simp] theorem addRecord_runs (w : QuizWorld) (quizId : String) :
    (w.addRecord quizId).runs = w.runs :=
  rfl

@[simp] theorem addRecord_paid (w : QuizWorld) (quizId : String) :
    (w.addRecord quizId).paid = w.paid :=
  rfl

@[simp] theorem addRecord_records (w : QuizWorld) (quizId : String) :
    (w.addRecord quizId).records = w.records ++ [⟨quizId, w.now⟩] :=
  rfl

@[simp] theorem addPayment_runs (w : QuizWorld) (quizId : String) (amount : ℕ) :
    (w.addPayment quizId amount).runs = w.runs :=
  rfl

@[simp] theorem addPayment_records (w : QuizWorld) (quizId : String) (amount : ℕ) :
    (w.addPayment quizId amount).records = w.records :=
  rfl

@[simp] theorem addPayment_paid (w : QuizWorld) (quizId : String) (amount : ℕ) :
    (w.addPayment quizId amount).paid = w.paid ++ [(quizId, amount)] :=
  rfl

end QuizWorld

namespace QuizConfig

variable (cfg : QuizConfig)

/-- The run after `QuizzesValue[quizId]`: a missing or zero value is refused. -/
def startRun (quizId : String) : ClaimRun :=
  match cfg.valueOf quizId with
  | some amount => if amount = 0 then .finished else .started quizId amount
  | none => .finished

/-- The run after `listQuizzesByAccountId`; it ends where
    `fillQuizInformation` throws. -/
def listRun (records : List QuizCompleted) (now : ℕ) (quizId : String) (amount : ℕ) : ClaimRun :=
  match cfg.listQuizzesByAccountId records now with
  | some quizzesBefore => .listed quizId amount now quizzesBefore
  | none => .finished

end QuizConfig

/-- The run after the `notBefore` check, with `now` the second clock reading. -/
def checkRun (now : ℕ) (quizId : String) (amount : ℕ) (quizzesBefore : List QuizInfo) : ClaimRun :=
  match quizzesBefore.find? (·.id == quizId) with
  | none => .finished
  | some quiz =>
    match quiz.notBefore with
    | some notBefore => if notBefore > now then .finished else .checked quizId amount quizzesBefore
    | none => .checked quizId amount quizzesBefore

/-- One step of one run, or of the clock. -/
def next (cfg : QuizConfig) (w : QuizWorld) : QuizAction → Option QuizWorld
  | .start i quizId => if w.runs i = none then some (w.setRun i (cfg.startRun quizId)) else none
  | .list i =>
    match w.runs i with
    | some (.started quizId amount) => some (w.setRun i (cfg.listRun w.records w.now quizId amount))
    | _ => none
  | .check i =>
    match w.runs i with
    | some (.listed quizId amount _ quizzesBefore) =>
      some (w.setRun i (checkRun w.now quizId amount quizzesBefore))
    | _ => none
  | .add i =>
    match w.runs i with
    | some (.checked quizId amount _) =>
      -- the unique index on `(accountId, quizId)` refuses a second document
      if quizId ∈ w.records.map (·.quizId) then some (w.setRun i .finished)
      else some ((w.addRecord quizId).setRun i (.added quizId amount))
    | _ => none
  | .pay i =>
    match w.runs i with
    | some (.added quizId amount) =>
      some ((w.setRun i .finished).addPayment quizId amount)
    | _ => none
  | .fail i =>
    match w.runs i with
    | none => none
    | some .finished => none
    | some _ => some (w.setRun i .finished)
  | .tick elapsed => some { w with now := w.now + elapsed }

/-- The interleavings in which each check reads the clock less than
    `milliSecondsBetweenSections` after its listing did. -/
def checksInTime (w : QuizWorld) : QuizAction → Bool
  | .check i =>
    match w.runs i with
    | some (.listed _ _ listedAt _) => decide (w.now < listedAt + milliSecondsBetweenSections)
    | _ => true
  | _ => true

-- ============================================================================
-- One step
-- ============================================================================

/-- What one step of `next` does, with the phase it found the run in. -/
inductive QuizStep (cfg : QuizConfig) (w : QuizWorld) : QuizAction → QuizWorld → Prop
  | start (i : ℕ) (quizId : String) (hIdle : w.runs i = none) :
      QuizStep cfg w (.start i quizId) (w.setRun i (cfg.startRun quizId))
  | list (i : ℕ) (quizId : String) (amount : ℕ) (hRun : w.runs i = some (.started quizId amount)) :
      QuizStep cfg w (.list i) (w.setRun i (cfg.listRun w.records w.now quizId amount))
  | check (i : ℕ) (quizId : String) (amount listedAt : ℕ) (quizzesBefore : List QuizInfo)
      (hRun : w.runs i = some (.listed quizId amount listedAt quizzesBefore)) :
      QuizStep cfg w (.check i) (w.setRun i (checkRun w.now quizId amount quizzesBefore))
  | addRefused (i : ℕ) (quizId : String) (amount : ℕ) (quizzesBefore : List QuizInfo)
      (hRun : w.runs i = some (.checked quizId amount quizzesBefore))
      (hTaken : quizId ∈ w.records.map (·.quizId)) :
      QuizStep cfg w (.add i) (w.setRun i .finished)
  | add (i : ℕ) (quizId : String) (amount : ℕ) (quizzesBefore : List QuizInfo)
      (hRun : w.runs i = some (.checked quizId amount quizzesBefore))
      (hFresh : quizId ∉ w.records.map (·.quizId)) :
      QuizStep cfg w (.add i) ((w.addRecord quizId).setRun i (.added quizId amount))
  | pay (i : ℕ) (quizId : String) (amount : ℕ) (hRun : w.runs i = some (.added quizId amount)) :
      QuizStep cfg w (.pay i) ((w.setRun i .finished).addPayment quizId amount)
  | fail (i : ℕ) (run : ClaimRun) (hRun : w.runs i = some run) (hActive : run ≠ .finished) :
      QuizStep cfg w (.fail i) (w.setRun i .finished)
  | tick (elapsed : ℕ) : QuizStep cfg w (.tick elapsed) { w with now := w.now + elapsed }

theorem next_quizStep {cfg : QuizConfig} {w w' : QuizWorld} {a : QuizAction}
    (h : next cfg w a = some w') : QuizStep cfg w a w' := by
  cases a with
  | start i quizId =>
    simp only [next] at h
    split at h
    · cases h
      exact .start i quizId ‹_›
    · cases h
  | list i =>
    simp only [next] at h
    split at h
    · cases h
      exact .list i _ _ ‹_›
    · cases h
  | check i =>
    simp only [next] at h
    split at h
    · cases h
      exact .check i _ _ _ _ ‹_›
    · cases h
  | add i =>
    simp only [next] at h
    split at h
    · split at h
      · cases h
        exact .addRefused i _ _ _ ‹_› ‹_›
      · cases h
        exact .add i _ _ _ ‹_› ‹_›
    · cases h
  | pay i =>
    simp only [next] at h
    split at h
    · cases h
      exact .pay i _ _ ‹_›
    · cases h
  | fail i =>
    simp only [next] at h
    split at h
    · cases h
    · cases h
    · cases h
      exact .fail i _ ‹_› ‹_›
  | tick elapsed =>
    simp only [next] at h
    cases h
    exact .tick elapsed

-- ============================================================================
-- Each quiz paid at most once
-- ============================================================================

/-- What a run knows of its quiz: the value it read, and, once added, that its
    document is in and its payment not yet made. -/
def ClaimRun.Ok (cfg : QuizConfig) (w : QuizWorld) : ClaimRun → Prop
  | .started quizId amount => cfg.valueOf quizId = some amount
  | .listed quizId amount _ _ => cfg.valueOf quizId = some amount
  | .checked quizId amount _ => cfg.valueOf quizId = some amount
  | .added quizId amount =>
    cfg.valueOf quizId = some amount ∧ quizId ∈ w.records.map (·.quizId) ∧
      quizId ∉ w.paid.map (·.1)
  | .finished => True

/-- Every quiz has at most one document and at most one payment, a document
    is of a quiz with a value, a payment has its document and the quiz's
    value, and at most one run holds the right to pay for a quiz. -/
structure Safe (cfg : QuizConfig) (w : QuizWorld) : Prop where
  records_nodup : (w.records.map (·.quizId)).Nodup
  paid_nodup : (w.paid.map (·.1)).Nodup
  paid_recorded : ∀ p ∈ w.paid, p.1 ∈ w.records.map (·.quizId) ∧ cfg.valueOf p.1 = some p.2
  runs : ForallProcs w.runs fun _ run => run.Ok cfg w
  added_unique : ∀ i j quizId a b, w.runs i = some (.added quizId a) →
    w.runs j = some (.added quizId b) → i = j
  records_valued : ∀ r ∈ w.records, ∃ amount, cfg.valueOf r.quizId = some amount

variable {cfg : QuizConfig} {w : QuizWorld}

theorem startRun_ok (quizId : String) : (cfg.startRun quizId).Ok cfg w := by
  unfold QuizConfig.startRun
  split
  · rename_i amount hValue
    split
    · trivial
    · exact hValue
  · trivial

theorem listRun_ok {records : List QuizCompleted} {now : ℕ} {quizId : String} {amount : ℕ}
    (hValue : cfg.valueOf quizId = some amount) :
    (cfg.listRun records now quizId amount).Ok cfg w := by
  unfold QuizConfig.listRun
  split
  · exact hValue
  · trivial

theorem checkRun_ok {now : ℕ} {quizId : String} {amount : ℕ} {quizzesBefore : List QuizInfo}
    (hValue : cfg.valueOf quizId = some amount) :
    (checkRun now quizId amount quizzesBefore).Ok cfg w := by
  unfold checkRun
  split
  · trivial
  · split
    · split
      · trivial
      · exact hValue
    · exact hValue

/-- Only the `add` step gives a run the right to pay: none of the other phase
    changes ends in `added`. -/
theorem startRun_ne_added (quizId quizId' : String) (amount : ℕ) :
    cfg.startRun quizId ≠ .added quizId' amount := by
  unfold QuizConfig.startRun
  split
  · split <;> nofun
  · nofun

theorem listRun_ne_added {records : List QuizCompleted} {now : ℕ} {quizId : String} {amount : ℕ}
    (quizId' : String) (amount' : ℕ) : cfg.listRun records now quizId amount ≠ .added quizId' amount' := by
  unfold QuizConfig.listRun
  split <;> nofun

theorem checkRun_ne_added {now : ℕ} {quizId : String} {amount : ℕ} {quizzesBefore : List QuizInfo}
    (quizId' : String) (amount' : ℕ) : checkRun now quizId amount quizzesBefore ≠ .added quizId' amount' := by
  unfold checkRun
  split
  · nofun
  · split
    · split <;> nofun
    · nofun

/-- A step that moves run `i` to a phase it can be in: the right to pay for a
    quiz, if the new phase holds one, is held by no other run. -/
theorem Safe.setRun (hw : Safe cfg w) (i : ℕ) {run : ClaimRun} (hRun : run.Ok cfg w)
    (hUnique : ∀ quizId amount, run = .added quizId amount →
      ∀ j b, j ≠ i → w.runs j ≠ some (.added quizId b)) :
    Safe cfg (w.setRun i run) := by
  refine ⟨hw.records_nodup, hw.paid_nodup, hw.paid_recorded,
    hw.runs.update hRun fun _ _ _ _ hOk => hOk, ?_, hw.records_valued⟩
  intro j k quizId a b hj hk
  simp only [QuizWorld.setRun] at hj hk
  by_cases hji : j = i
  · by_cases hki : k = i
    · rw [hji, hki]
    · rw [hji, Function.update_self, Option.some.injEq] at hj
      rw [Function.update_of_ne hki] at hk
      exact absurd hk (hUnique quizId a hj k b hki)
  · rw [Function.update_of_ne hji] at hj
    by_cases hki : k = i
    · rw [hki, Function.update_self, Option.some.injEq] at hk
      exact absurd hj (hUnique quizId b hk j a hji)
    · rw [Function.update_of_ne hki] at hk
      exact hw.added_unique j k quizId a b hj hk

/-- A phase that holds no right to pay can always be entered. -/
theorem Safe.setRun_of_not_added (hw : Safe cfg w) (i : ℕ) {run : ClaimRun} (hRun : run.Ok cfg w)
    (hNotAdded : ∀ quizId amount, run ≠ .added quizId amount) : Safe cfg (w.setRun i run) :=
  hw.setRun i hRun fun quizId amount hAdded => absurd hAdded (hNotAdded quizId amount)

theorem ClaimRun.Ok.addRecord {run : ClaimRun} (h : run.Ok cfg w) (quizId : String) :
    run.Ok cfg (w.addRecord quizId) := by
  cases run with
  | added quizId' amount' => exact ⟨h.1, by simp [h.2.1], h.2.2⟩
  | started => exact h
  | listed => exact h
  | checked => exact h
  | finished => trivial

/-- A document for a quiz with a value that had none keeps the invariant. -/
theorem Safe.addRecord (hw : Safe cfg w) {quizId : String} {amount : ℕ}
    (hValue : cfg.valueOf quizId = some amount) (hFresh : quizId ∉ w.records.map (·.quizId)) :
    Safe cfg (w.addRecord quizId) := by
  refine ⟨?_, hw.paid_nodup, ?_, hw.runs.mono fun _ _ _ hOk => hOk.addRecord quizId,
    hw.added_unique, ?_⟩
  · simpa [List.nodup_append, hw.records_nodup] using hFresh
  · intro p hp
    obtain ⟨hRecorded, hValue⟩ := hw.paid_recorded p hp
    exact ⟨by simp [hRecorded], hValue⟩
  · intro r hr
    rcases List.mem_append.mp hr with hOld | hNew
    · exact hw.records_valued r hOld
    · rw [List.mem_singleton.mp hNew]
      exact ⟨amount, hValue⟩

/-- A payment for a recorded quiz that no payment and no run holds yet keeps
    the invariant. -/
theorem Safe.addPayment (hw : Safe cfg w) {quizId : String} {amount : ℕ}
    (hValue : cfg.valueOf quizId = some amount) (hRecorded : quizId ∈ w.records.map (·.quizId))
    (hUnpaid : quizId ∉ w.paid.map (·.1)) (hFree : ∀ j b, w.runs j ≠ some (.added quizId b)) :
    Safe cfg (w.addPayment quizId amount) := by
  have hNodup : (w.paid.map (·.1) ++ [quizId]).Nodup :=
    hw.paid_nodup.append (List.nodup_singleton quizId) (List.disjoint_singleton.mpr hUnpaid)
  refine ⟨hw.records_nodup, by simpa using hNodup, ?_, ?_, hw.added_unique, hw.records_valued⟩
  · intro p hp
    rcases List.mem_append.mp hp with hOld | hNew
    · exact hw.paid_recorded p hOld
    · rw [List.mem_singleton.mp hNew]
      exact ⟨hRecorded, hValue⟩
  · refine hw.runs.mono fun j run hj hOk => ?_
    cases run with
    | added quizId' amount' =>
      -- another run holding a quiz holds a different one
      have hOther : quizId' ≠ quizId := by
        rintro rfl
        exact hFree j amount' hj
      refine ⟨hOk.1, hOk.2.1, ?_⟩
      simpa [hOther] using hOk.2.2
    | started => exact hOk
    | listed => exact hOk
    | checked => exact hOk
    | finished => trivial

/-- The paid quizzes are paid once each, with their values. -/
theorem Safe.step (hw : Safe cfg w) {a : QuizAction} {w' : QuizWorld} (h : next cfg w a = some w') :
    Safe cfg w' := by
  cases next_quizStep h with
  | start i quizId _ => exact hw.setRun_of_not_added i (startRun_ok quizId) (startRun_ne_added quizId)
  | list i _ _ hRun => exact hw.setRun_of_not_added i (listRun_ok (hw.runs i _ hRun)) listRun_ne_added
  | check i _ _ _ _ hRun =>
    exact hw.setRun_of_not_added i (checkRun_ok (hw.runs i _ hRun)) checkRun_ne_added
  | addRefused i | fail i => exact hw.setRun_of_not_added i trivial fun _ _ => nofun
  | add i quizId amount _ hRun hFresh =>
    -- a run holding `quizId` would have its document in
    have hFree : ∀ j b, j ≠ i → w.runs j ≠ some (.added quizId b) := fun j b _ hj =>
      hFresh (hw.runs j _ hj).2.1
    have hUnpaid : quizId ∉ w.paid.map (·.1) := by
      intro hPaid
      obtain ⟨p, hp, rfl⟩ := List.mem_map.mp hPaid
      exact hFresh (hw.paid_recorded p hp).1
    refine (hw.addRecord (hw.runs i _ hRun) hFresh).setRun i ⟨hw.runs i _ hRun, by simp, hUnpaid⟩ ?_
    intro quizId' amount' hAdded j b hji
    cases hAdded
    exact hFree j b hji
  | pay i quizId amount hRun =>
    obtain ⟨hValue, hRecorded, hUnpaid⟩ := hw.runs i _ hRun
    have hFinished := hw.setRun_of_not_added i (show ClaimRun.Ok cfg w .finished from trivial)
      fun _ _ => nofun
    refine hFinished.addPayment hValue hRecorded hUnpaid fun j b hj => ?_
    -- only run `i` held `quizId`, and it has finished
    by_cases hji : j = i
    · rw [hji] at hj
      simp [QuizWorld.setRun] at hj
    · simp only [QuizWorld.setRun, Function.update_of_ne hji] at hj
      exact hji (hw.added_unique j i quizId b amount hj hRun)
  | tick =>
    exact ⟨hw.records_nodup, hw.paid_nodup, hw.paid_recorded, hw.runs, hw.added_unique,
      hw.records_valued⟩

-- ============================================================================
-- The section gate
-- ============================================================================

/-- Every document of a quiz of section `s + 1` came at least
    `milliSecondsBetweenSections` after the document of the last quiz of
    section `s`. -/
def SectionsGated (cfg : QuizConfig) (records : List QuizCompleted) : Prop :=
  ∀ r ∈ records, ∀ s, cfg.sectionOf r.quizId = some (s + 1) →
    ∃ c ∈ records, cfg.lastQuizOf s = some c.quizId ∧
      c.createdAt + milliSecondsBetweenSections ≤ r.createdAt

/-- What a run's listing and check know of the gate.  A listed run's entry for
    its quiz is completed only if the quiz has its document, and otherwise
    waits for the last quiz of the previous section, which the listing shows
    completed, or for the listing's clock.  A checked run's quiz has its
    document, or the previous section's last quiz, completed in the run's
    listing, has had its document for long enough. -/
def ClaimRun.Gated (cfg : QuizConfig) (w : QuizWorld) : ClaimRun → Prop
  | .listed quizId _ listedAt quizzesBefore =>
    listedAt ≤ w.now ∧ ∀ info, quizzesBefore.find? (·.id == quizId) = some info →
      (info.completed = true → quizId ∈ w.records.map (·.quizId)) ∧
      ∀ s, cfg.sectionOf quizId = some (s + 1) → info.completed = false →
        ∃ T, info.notBefore = some (T + milliSecondsBetweenSections) ∧
          ((∃ c ∈ w.records, cfg.lastQuizOf s = some c.quizId ∧ T = c.createdAt ∧
              ListedCompleted quizzesBefore c.quizId) ∨ T = listedAt)
  | .checked quizId _ quizzesBefore =>
    quizId ∈ w.records.map (·.quizId) ∨ ∀ s, cfg.sectionOf quizId = some (s + 1) →
      ∃ c ∈ w.records, cfg.lastQuizOf s = some c.quizId ∧
        c.createdAt + milliSecondsBetweenSections ≤ w.now ∧ ListedCompleted quizzesBefore c.quizId
  | _ => True

structure Gate (cfg : QuizConfig) (w : QuizWorld) : Prop where
  records : SectionsGated cfg w.records
  runs : ForallProcs w.runs fun _ run => run.Gated cfg w

/-- What a run knows of the gate stays true as documents come in and the clock
    moves. -/
theorem ClaimRun.Gated.mono {w' : QuizWorld} {run : ClaimRun} (h : run.Gated cfg w)
    (hRecords : ∀ c ∈ w.records, c ∈ w'.records) (hNow : w.now ≤ w'.now) : run.Gated cfg w' := by
  have hIds : ∀ quizId ∈ w.records.map (·.quizId), quizId ∈ w'.records.map (·.quizId) := by
    intro quizId hMem
    obtain ⟨c, hc, rfl⟩ := List.mem_map.mp hMem
    exact List.mem_map_of_mem (hRecords c hc)
  cases run with
  | listed quizId amount listedAt quizzesBefore =>
    refine ⟨h.1.trans hNow, fun info hInfo => ⟨fun hDone => hIds _ ((h.2 info hInfo).1 hDone),
      fun s hSection hOpen => ?_⟩⟩
    obtain ⟨T, hNotBefore, hWhen⟩ := (h.2 info hInfo).2 s hSection hOpen
    refine ⟨T, hNotBefore, ?_⟩
    rcases hWhen with ⟨c, hc, hLast, hT, hListed⟩ | hT
    · exact .inl ⟨c, hRecords c hc, hLast, hT, hListed⟩
    · exact .inr hT
  | checked quizId amount quizzesBefore =>
    rcases h with hDone | hGate
    · exact .inl (hIds _ hDone)
    · refine .inr fun s hSection => ?_
      obtain ⟨c, hc, hLast, hLe, hListed⟩ := hGate s hSection
      exact ⟨c, hRecords c hc, hLast, hLe.trans hNow, hListed⟩
  | started => trivial
  | added => trivial
  | finished => trivial

/-- A started run knows nothing of the gate yet. -/
theorem startRun_gated (quizId : String) : (cfg.startRun quizId).Gated cfg w := by
  unfold QuizConfig.startRun
  split
  · split <;> trivial
  · trivial

/-- The listing knows the gate of every quiz it lists, and shows the
    documents there are, all of quizzes with a value, as completed. -/
theorem listRun_gated (hValued : ∀ r ∈ w.records, ∃ amount, cfg.valueOf r.quizId = some amount)
    {quizId : String} {amount : ℕ} : (cfg.listRun w.records w.now quizId amount).Gated cfg w := by
  unfold QuizConfig.listRun
  split
  · rename_i quizzesBefore hList
    refine ⟨le_refl _, fun info hInfo => ?_⟩
    obtain ⟨entry, -, hKey, hEntry⟩ := QuizConfig.listQuizzesByAccountId_find? hList hInfo
    subst hKey
    refine ⟨fun hDone => ?_, fun s hSection hOpen => ?_⟩
    · obtain ⟨c, hc, hId⟩ := ((QuizConfig.quizInformation_eq_some hEntry).2.2).mp hDone
      rw [← hId]
      exact List.mem_map_of_mem (QuizConfig.mem_reorderQuizzes.mp hc)
    · obtain ⟨T, hNotBefore, hWhen⟩ := QuizConfig.quizInformation_notBefore hEntry hOpen hSection
      refine ⟨T, hNotBefore, ?_⟩
      rcases hWhen with ⟨c, hc, hLast, hT⟩ | hT
      · have hRecorded := QuizConfig.mem_reorderQuizzes.mp hc
        obtain ⟨_, hValue⟩ := hValued c hRecorded
        exact .inl ⟨c, hRecorded, hLast, hT,
          QuizConfig.listQuizzesByAccountId_completed hList hRecorded hValue⟩
      · exact .inr hT
  · trivial

/-- A check that reads the clock less than `milliSecondsBetweenSections`
    after its listing passes a quiz of section `s + 1` only if the last quiz of
    section `s` has had its document for long enough: the fallback `notBefore`
    is still ahead. -/
theorem checkRun_gated {quizId : String} {amount listedAt : ℕ} {quizzesBefore : List QuizInfo}
    (h : (ClaimRun.listed quizId amount listedAt quizzesBefore).Gated cfg w)
    (hInTime : w.now < listedAt + milliSecondsBetweenSections) :
    (checkRun w.now quizId amount quizzesBefore).Gated cfg w := by
  unfold checkRun
  split
  · trivial
  · rename_i info hInfo
    obtain ⟨hDone, hGate⟩ := h.2 info hInfo
    -- the check passes with `notBefore` reached, or with no `notBefore`
    have hChecked : (∀ notBefore, info.notBefore = some notBefore → notBefore ≤ w.now) →
        (ClaimRun.checked quizId amount quizzesBefore).Gated cfg w := by
      intro hReached
      cases hCompleted : info.completed with
      | true => exact .inl (hDone hCompleted)
      | false =>
        refine .inr fun s hSection => ?_
        obtain ⟨T, hNotBefore, hWhen⟩ := hGate s hSection hCompleted
        have hLe := hReached _ hNotBefore
        rcases hWhen with ⟨c, hc, hLast, rfl, hListed⟩ | rfl
        · exact ⟨c, hc, hLast, hLe, hListed⟩
        · omega
    split
    · rename_i notBefore hNotBefore
      split
      · trivial
      · rename_i hNotAhead
        exact hChecked fun _ hSome => by
          rw [hNotBefore, Option.some.injEq] at hSome
          subst hSome
          omega
    · rename_i hNone
      exact hChecked fun _ hSome => by simp [hNone] at hSome

/-- Moving one run keeps the gate when the run's new phase knows its part. -/
theorem Gate.setRun (hw : Gate cfg w) (i : ℕ) {run : ClaimRun} (hRun : run.Gated cfg w) :
    Gate cfg (w.setRun i run) :=
  ⟨hw.records, hw.runs.update hRun fun _ _ _ _ hGated => hGated⟩

/-- A document that the check let through keeps every section gated. -/
theorem Gate.addRecord (hw : Gate cfg w) {i : ℕ} {quizId : String} {amount : ℕ}
    {quizzesBefore : List QuizInfo} (hRun : w.runs i = some (.checked quizId amount quizzesBefore))
    (hFresh : quizId ∉ w.records.map (·.quizId)) :
    Gate cfg (w.addRecord quizId) := by
  have hGrow : ∀ c ∈ w.records, c ∈ (w.addRecord quizId).records := fun c hc => by simp [hc]
  refine ⟨?_, hw.runs.mono fun _ _ _ hGated => hGated.mono hGrow le_rfl⟩
  intro r hr s hSection
  rcases List.mem_append.mp hr with hOld | hNew
  · obtain ⟨c, hc, hLast, hLe⟩ := hw.records r hOld s hSection
    exact ⟨c, hGrow c hc, hLast, hLe⟩
  · -- the new document is stamped with the clock the check already passed
    rw [List.mem_singleton.mp hNew] at hSection ⊢
    rcases (hw.runs i _ hRun : (ClaimRun.checked quizId amount quizzesBefore).Gated cfg w) with
      hDone | hGate
    · exact absurd hDone hFresh
    · obtain ⟨c, hc, hLast, hLe, -⟩ := hGate s hSection
      exact ⟨c, hGrow c hc, hLast, hLe⟩

/-- Every step of a run whose check comes in time keeps the gate. -/
theorem Gate.step (hSafe : Safe cfg w) (hw : Gate cfg w) {a : QuizAction} {w' : QuizWorld}
    (h : restrict (next cfg) checksInTime w a = some w') : Gate cfg w' := by
  obtain ⟨hAllowed, h⟩ := restrict_eq_some h
  cases next_quizStep h with
  | start i quizId _ => exact hw.setRun i (startRun_gated quizId)
  | list i _ _ _ => exact hw.setRun i (listRun_gated hSafe.records_valued)
  | check i _ _ _ _ hRun =>
    simp only [checksInTime, hRun, decide_eq_true_eq] at hAllowed
    exact hw.setRun i (checkRun_gated (hw.runs i _ hRun) hAllowed)
  | addRefused i | fail i => exact hw.setRun i trivial
  | add i _ _ _ hRun hFresh => exact (hw.addRecord hRun hFresh).setRun i trivial
  | pay i =>
    exact ⟨hw.records, (hw.setRun i (show ClaimRun.Gated cfg w .finished from trivial)).runs⟩
  | tick =>
    refine ⟨hw.records, hw.runs.mono fun _ _ _ hGated => hGated.mono (fun c hc => hc) ?_⟩
    exact Nat.le_add_right _ _

-- ============================================================================
-- Every interleaving
-- ============================================================================

theorem Safe.initial (now : ℕ) : Safe cfg (QuizWorld.initial now) :=
  ⟨List.nodup_nil, List.nodup_nil, (fun _ hp => nomatch hp), (fun _ _ hRun => by cases hRun),
    (fun _ _ _ _ _ hRun => by cases hRun), fun _ hr => nomatch hr⟩

theorem Gate.initial (now : ℕ) : Gate cfg (QuizWorld.initial now) :=
  ⟨(fun _ hr => nomatch hr), fun _ _ hRun => by cases hRun⟩

/-- The account is paid at most the sum of the values: each quiz is paid once,
    with its value. -/
theorem Safe.paid_sum_le (hw : Safe cfg w) : (w.paid.map (·.2)).sum ≤ (cfg.values.map (·.2)).sum := by
  let value : String → ℕ := fun quizId => (cfg.valueOf quizId).getD 0
  have hPaid : w.paid.map (·.2) = (w.paid.map (·.1)).map value := by
    rw [List.map_map]
    apply List.map_congr_left
    intro p hp
    simp [value, (hw.paid_recorded p hp).2]
  have hKeys : w.paid.map (·.1) ⊆ cfg.values.map (·.1) := by
    intro quizId hMem
    obtain ⟨p, hp, rfl⟩ := List.mem_map.mp hMem
    exact List.mem_map_of_mem (QuizConfig.valueOf_eq_some_iff.mp (hw.paid_recorded p hp).2)
  -- the paid quizzes are distinct keys, so they sit in the keys up to order
  obtain ⟨l, hPerm, hSub⟩ := List.subperm_of_subset hw.paid_nodup hKeys
  calc (w.paid.map (·.2)).sum
      = ((w.paid.map (·.1)).map value).sum := by rw [hPaid]
    _ = (l.map value).sum := ((hPerm.map value).sum_eq).symm
    _ ≤ ((cfg.values.map (·.1)).map value).sum :=
      (hSub.map value).sum_le_sum fun _ _ => Nat.zero_le _
    _ = (cfg.values.map (·.2)).sum := QuizConfig.sum_map_valueOf

/-- For every interleaving of `claimQuiz` calls for one account, from no quiz:
    each quiz gets at most one document and at most one payment, a payment
    comes after the document and is the quiz's value, and the account is paid
    at most the sum of the values.  In the interleavings whose checks read the
    clock less than `milliSecondsBetweenSections` after their listings, every
    quiz of a section `s + 1` gets its document at least that long after the
    last quiz of section `s` got its own; and a claim that is about to add a
    quiz of section `s + 1` listed the last quiz of section `s` as completed,
    its document at least that long before the clock its add stamps. -/
theorem claimQuiz_safe (cfg : QuizConfig) (now : ℕ) :
    (∀ w, Reachable (next cfg) (QuizWorld.initial now) w →
      (w.records.map (·.quizId)).Nodup ∧ (w.paid.map (·.1)).Nodup ∧
      (∀ p ∈ w.paid, p.1 ∈ w.records.map (·.quizId) ∧ cfg.valueOf p.1 = some p.2) ∧
      (w.paid.map (·.2)).sum ≤ (cfg.values.map (·.2)).sum) ∧
    ∀ w, Reachable (restrict (next cfg) checksInTime) (QuizWorld.initial now) w →
      SectionsGated cfg w.records ∧
      ∀ i quizId amount quizzesBefore, w.runs i = some (.checked quizId amount quizzesBefore) →
        quizId ∉ w.records.map (·.quizId) → ∀ s, cfg.sectionOf quizId = some (s + 1) →
          ∃ c ∈ w.records, cfg.lastQuizOf s = some c.quizId ∧
            c.createdAt + milliSecondsBetweenSections ≤ w.now ∧
            ListedCompleted quizzesBefore c.quizId := by
  have hSafe : Invariant (next cfg) (QuizWorld.initial now) (Safe cfg) :=
    ⟨Safe.initial now, fun _ _ _ hw h => hw.step h⟩
  -- the gate's steps are steps of `next`, so the restricted runs keep `Safe` too
  have hGate : Invariant (restrict (next cfg) checksInTime) (QuizWorld.initial now)
      fun w => Safe cfg w ∧ Gate cfg w :=
    ⟨⟨Safe.initial now, Gate.initial now⟩, fun _ _ _ hw h =>
      ⟨hw.1.step (restrict_eq_some h).2, hw.2.step hw.1 h⟩⟩
  refine ⟨fun w hReach => ?_, fun w hReach => ?_⟩
  · have hw := hSafe.holds hReach
    exact ⟨hw.records_nodup, hw.paid_nodup, hw.paid_recorded, hw.paid_sum_le⟩
  · obtain ⟨-, hw⟩ := hGate.holds hReach
    refine ⟨hw.records, fun i quizId amount quizzesBefore hRun hFresh s hSection => ?_⟩
    rcases (hw.runs i _ hRun : (ClaimRun.checked quizId amount quizzesBefore).Gated cfg w) with
      hDone | hGated
    · exact absurd hDone hFresh
    · exact hGated s hSection

/-- `copyBitcoin` closes the first section; twelve hours later
    `moneySocialAgreement`, of the second, is claimed. -/
def twoSectionsTrace : List QuizAction :=
  [.start 0 "copyBitcoin", .list 0, .check 0, .add 0, .pay 0, .tick milliSecondsBetweenSections,
    .start 1 "moneySocialAgreement", .list 1, .check 1, .add 1, .pay 1]

set_option maxRecDepth 4096 in
theorem claimQuiz_safe_twoSections :
    ∃ w, run (next quizConfig) (QuizWorld.initial 0) twoSectionsTrace = some w ∧
      run (restrict (next quizConfig) checksInTime) (QuizWorld.initial 0) twoSectionsTrace = some w ∧
      ((w.records.map (·.quizId)).Nodup ∧ (w.paid.map (·.1)).Nodup ∧
        (∀ p ∈ w.paid, p.1 ∈ w.records.map (·.quizId) ∧ quizConfig.valueOf p.1 = some p.2) ∧
        (w.paid.map (·.2)).sum ≤ (quizConfig.values.map (·.2)).sum) ∧
      SectionsGated quizConfig w.records ∧
      ∀ i quizId amount quizzesBefore, w.runs i = some (.checked quizId amount quizzesBefore) →
        quizId ∉ w.records.map (·.quizId) → ∀ s, quizConfig.sectionOf quizId = some (s + 1) →
          ∃ c ∈ w.records, quizConfig.lastQuizOf s = some c.quizId ∧
            c.createdAt + milliSecondsBetweenSections ≤ w.now ∧
            ListedCompleted quizzesBefore c.quizId := by
  obtain ⟨w, hRun⟩ : ∃ w, run (next quizConfig) (QuizWorld.initial 0) twoSectionsTrace = some w :=
    ⟨_, rfl⟩
  have hRestricted : run (restrict (next quizConfig) checksInTime) (QuizWorld.initial 0)
      twoSectionsTrace = some w := by
    rw [← hRun]
    rfl
  exact ⟨w, hRun, hRestricted, (claimQuiz_safe quizConfig 0).1 w (reachable_of_run hRun),
    (claimQuiz_safe quizConfig 0).2 w (reachable_of_run hRestricted)⟩

set_option maxRecDepth 4096 in
/-- A claim of `moneySocialAgreement`, of the second section, lists the quizzes
    while `copyBitcoin`, the last of the first, has no document: its
    `notBefore` is the listing's clock plus twelve hours.  The check reads the
    clock twelve hours later, passes, and the quiz is recorded and paid. -/
theorem claimQuiz_passes_gate_without_previous_section :
    ∃ w, Reachable (next quizConfig) (QuizWorld.initial 0) w ∧
      quizConfig.sectionOf "moneySocialAgreement" = some 1 ∧
      quizConfig.lastQuizOf 0 = some "copyBitcoin" ∧
      ⟨"moneySocialAgreement", milliSecondsBetweenSections⟩ ∈ w.records ∧
      ("moneySocialAgreement", 2) ∈ w.paid ∧ "copyBitcoin" ∉ w.records.map (·.quizId) := by
  obtain ⟨w, hReach, hHolds⟩ := @exists_of_run QuizWorld QuizAction (next quizConfig)
    (QuizWorld.initial 0)
    [.start 0 "moneySocialAgreement", .list 0, .tick milliSecondsBetweenSections, .check 0, .add 0,
      .pay 0]
    (fun w => decide (⟨"moneySocialAgreement", milliSecondsBetweenSections⟩ ∈ w.records ∧
      ("moneySocialAgreement", 2) ∈ w.paid ∧ "copyBitcoin" ∉ w.records.map (·.quizId)))
    (by decide +kernel)
  exact ⟨w, hReach, by decide, by decide, of_decide_eq_true hHolds⟩

end Quiz

end Galoy
