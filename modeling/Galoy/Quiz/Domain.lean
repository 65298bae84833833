/-
  Galoy.Quiz.Domain

  The quiz domain (`core/api/src/domain/quiz/index.ts`, `config.ts`,
  `sections.ts`) and the listing of an account's quizzes (`app/quiz/list.ts`).

  `fillQuizInformation` turns the account's completed quizzes into the list of
  every quiz with its amount, whether it is completed, its section, and the
  time before which it may not be claimed: a quiz of section `s + 1` that is
  not completed may be claimed `milliSecondsBetweenSections` after the last
  quiz of section `s` was completed, or, when that quiz is not completed,
  `milliSecondsBetweenSections` after the clock reading of the listing itself
  (`quizInformation_notBefore`).

  Dates are milliseconds.  The functions read a configuration; the one of the
  source is `quizConfig`.
-/

import Mathlib.Data.List.Sort
import Mathlib.Data.Nat.Notation
import Mathlib.Algebra.GroupWithZero.Nat

namespace Galoy

namespace Quiz

def milliSecondsBetweenSections : ℕ := 60 * 60 * 12 * 1000

-- ============================================================================
-- The configuration
-- ============================================================================

/-- `QuizzesValue`, in the order of its keys. -/
def QuizzesValue : List (String × ℕ) :=
  [("whatIsBitcoin", 1), ("sat", 1), ("whereBitcoinExist", 1), ("whoControlsBitcoin", 1),
    ("copyBitcoin", 1), ("moneySocialAgreement", 2), ("coincidenceOfWants", 2),
    ("moneyEvolution", 2), ("whyStonesShellGold", 3), ("moneyIsImportant", 3),
    ("moneyImportantGovernement", 4), ("WhatIsFiat", 2), ("whyCareAboutFiatMoney", 2),
    ("GovernementCanPrintMoney", 2), ("FiatLosesValueOverTime", 3), ("OtherIssues", 4),
    ("LimitedSupply", 2), ("Decentralized", 2), ("NoCounterfeitMoney", 2),
    ("HighlyDivisible", 3), ("securePartOne", 3), ("securePartTwo", 4), ("originsOfMoney", 2),
    ("primitiveMoney", 2), ("anticipatingDemand", 3), ("nashEquilibrium", 3),
    ("singleStoreOfValue", 4), ("whatIsGoodSOV", 2), ("durability", 2), ("portability", 2),
    ("fungibility", 2), ("verifiability", 3), ("divisibility", 3), ("scarce", 3),
    ("establishedHistory", 4), ("censorshipResistance", 5), ("evolutionMoney", 2),
    ("collectible", 2), ("storeOfValue", 2), ("mediumOfExchange", 3), ("unitOfAccount", 3),
    ("partlyMonetized", 3), ("monetizationStage", 4), ("notFromGovernment", 2),
    ("primaryFunction", 2), ("monetaryMetals", 3), ("stockToFlow", 3), ("hardMoney", 4),
    ("convergingOnGold", 2), ("originsOfPaperMoney", 2), ("fractionalReserve", 2),
    ("bankRun", 2), ("modernCentralBanking", 3), ("goldBacked", 3), ("brettonWoods", 4),
    ("globalReserve", 5), ("nixonShock", 2), ("fiatEra", 2), ("digitalFiat", 2),
    ("plasticCredit", 3), ("doubleSpendProblem", 3), ("satoshisBreakthrough", 3),
    ("nativelyDigital", 4), ("CBDCs", 5), ("rootProblem", 2), ("bitcoinCreator", 2),
    ("fiatRequiresTrust", 3), ("moneyPrinting", 3), ("genesisBlock", 4), ("cypherpunks", 13),
    ("peer2Peer", 2), ("blockchain", 2), ("privateKey", 2), ("publicKey", 3), ("mining", 3),
    ("proofOfWork", 3), ("difficultyAdjustment", 4), ("halving", 5), ("bitcoinDrawbacks", 2),
    ("blocksizeWars", 2), ("lightningNetwork", 2), ("instantPayments", 3),
    ("micropayments", 3), ("scalability", 3), ("paymentChannels", 4), ("routing", 5),
    ("itsaBubble", 2), ("itstooVolatile", 2), ("itsnotBacked", 3), ("willbecomeObsolete", 3),
    ("toomuchEnergy", 4), ("strandedEnergy", 5), ("internetDependent", 2), ("forcrimeOnly", 2),
    ("ponziScheme", 2), ("bitcoinisTooSlow", 3), ("supplyLimit", 3), ("governmentBan", 4),
    ("concentratedOwnership", 2), ("centralizedMining", 2), ("tooExpensive", 2),
    ("prohibitivelyHigh", 3), ("willBeHoarded", 4), ("canBeDuplicated", 5), ("scarcity", 2),
    ("monetaryPremium", 2), ("greshamsLaw", 2), ("thiersLaw", 3), ("cantillonEffect", 4),
    ("schellingPoint", 5), ("opportunityCost", 2), ("timePreference", 2),
    ("impossibleTrinity", 3), ("jevonsParadox", 3), ("powerLaws", 4), ("winnerTakeAll", 5),
    ("unitBias", 2), ("veblenGood", 2), ("malinvestment", 3), ("asymmetricPayoff", 4),
    ("ansoffMatrix", 5)]

/-- The `quiz` lists of `QuizzesSectionsConfig`, each after the `section` name it has
    there. -/
def QuizzesSectionsConfig : List (List String) :=
  -- bitcoinWhatIsIt
  [["whatIsBitcoin", "sat", "whereBitcoinExist", "whoControlsBitcoin", "copyBitcoin"],
    -- WhatIsMoney
    ["moneySocialAgreement", "coincidenceOfWants", "moneyEvolution", "whyStonesShellGold",
      "moneyIsImportant", "moneyImportantGovernement"],
    -- HowDoesMoneyWork
    ["WhatIsFiat", "whyCareAboutFiatMoney", "GovernementCanPrintMoney",
      "FiatLosesValueOverTime", "OtherIssues"],
    -- BitcoinWhySpecial
    ["LimitedSupply", "Decentralized", "NoCounterfeitMoney", "HighlyDivisible",
      "securePartOne", "securePartTwo"],
    -- TheOriginsOfMoney
    ["originsOfMoney", "primitiveMoney", "anticipatingDemand", "nashEquilibrium",
      "singleStoreOfValue"],
    -- AttributesOfAGoodStoreOfValue
    ["whatIsGoodSOV", "durability", "portability", "fungibility", "verifiability",
      "divisibility", "scarce", "establishedHistory", "censorshipResistance"],
    -- TheEvolutionOfMoneyI
    ["evolutionMoney", "collectible", "storeOfValue", "mediumOfExchange", "unitOfAccount",
      "partlyMonetized", "monetizationStage"],
    -- TheEvolutionOfMoneyII
    ["notFromGovernment", "primaryFunction", "monetaryMetals", "stockToFlow", "hardMoney"],
    -- TheEvolutionOfMoneyIII
    ["convergingOnGold", "originsOfPaperMoney", "fractionalReserve", "bankRun",
      "modernCentralBanking", "goldBacked", "brettonWoods", "globalReserve"],
    -- TheEvolutionOfMoneyIV
    ["nixonShock", "fiatEra", "digitalFiat", "plasticCredit", "doubleSpendProblem",
      "satoshisBreakthrough", "nativelyDigital", "CBDCs"],
    -- BitcoinWhyWasItCreated
    ["rootProblem", "bitcoinCreator", "fiatRequiresTrust", "moneyPrinting", "genesisBlock",
      "cypherpunks"],
    -- BitcoinHowDoesItWork
    ["peer2Peer", "blockchain", "privateKey", "publicKey", "mining", "proofOfWork",
      "difficultyAdjustment", "halving"],
    -- LightningWhatDoesItSolve
    ["bitcoinDrawbacks", "blocksizeWars", "lightningNetwork", "instantPayments",
      "micropayments", "scalability", "paymentChannels", "routing"],
    -- BitcoinCriticismsFallaciesI
    ["itsaBubble", "itstooVolatile", "itsnotBacked", "willbecomeObsolete", "toomuchEnergy",
      "strandedEnergy"],
    -- BitcoinCriticismsFallaciesII
    ["internetDependent", "forcrimeOnly", "ponziScheme", "bitcoinisTooSlow", "supplyLimit",
      "governmentBan"],
    -- BitcoinCriticismsFallaciesIII
    ["concentratedOwnership", "centralizedMining", "tooExpensive", "prohibitivelyHigh",
      "willBeHoarded", "canBeDuplicated"],
    -- BitcoinAndEconomicsI
    ["scarcity", "monetaryPremium", "greshamsLaw", "thiersLaw", "cantillonEffect",
      "schellingPoint"],
    -- BitcoinAndEconomicsII
    ["opportunityCost", "timePreference", "impossibleTrinity", "jevonsParadox", "powerLaws",
      "winnerTakeAll"],
    -- BitcoinAndEconomicsIII
    ["unitBias", "veblenGood", "malinvestment", "asymmetricPayoff", "ansoffMatrix"]]


/-- The values and sections the quiz functions read.  The values are the
    entries of an object, so their keys are distinct. -/
structure QuizConfig where
  values : List (String × ℕ)
  sections : List (List String)
  keys_nodup : (values.map (·.1)).Nodup

def quizConfig : QuizConfig := ⟨QuizzesValue, QuizzesSectionsConfig, by decide +kernel⟩

namespace QuizConfig

variable (cfg : QuizConfig)

/-- `QuizzesValue[quizId]`, over the object's own keys. -/
def valueOf (quizId : String) : Option ℕ :=
  (cfg.values.find? (·.1 == quizId)).map (·.2)

/-- `orderedKeys.indexOf(quizId)`: `-1` for an unknown id. -/
def keyIndex (quizId : String) : ℤ :=
  match (cfg.values.map (·.1)).idxOf? quizId with
  | some index => index
  | none => -1

/-- `QuizzesSections.find((section) => section.quiz.includes(quizId))?.order`. -/
def sectionOf (quizId : String) : Option ℕ :=
  cfg.sections.findIdx? (quizId ∈ ·)

/-- The last quiz of section `index`, if the section has one. -/
def lastQuizOf (index : ℕ) : Option String :=
  cfg.sections[index]?.bind List.getLast?

end QuizConfig

-- ============================================================================
-- Listing the quizzes of an account
-- ============================================================================

/-- A document of the quiz collection, for one account. -/
structure QuizCompleted where
  quizId : String
  createdAt : ℕ
  deriving DecidableEq, Repr

/-- One quiz as `fillQuizInformation` lists it; `«section»` is `none` where the
    source has `NaN`. -/
structure QuizInfo where
  id : String
  amount : ℕ
  completed : Bool
  «section» : Option ℕ
  notBefore : Option ℕ
  deriving DecidableEq, Repr

structure FillQuizInformationResult where
  currentSection : ℕ
  quizzes : List QuizInfo
  deriving DecidableEq, Repr

namespace QuizConfig

variable (cfg : QuizConfig)

/-- `reorderQuizzes`: a stable sort by the index of the quiz among the keys. -/
def reorderQuizzes (quizzesCompleted : List QuizCompleted) : List QuizCompleted :=
  quizzesCompleted.insertionSort fun a b => cfg.keyIndex a.quizId ≤ cfg.keyIndex b.quizId

/-- `lastSectionCompleted`: the section of the last completed quiz, or the one
    after it when that quiz closes its section. -/
def lastSectionCompleted (orderedQuizzes : List QuizCompleted) : ℕ :=
  match orderedQuizzes.getLast? with
  | none => 0
  | some last =>
    match cfg.sectionOf last.quizId with
    | none => 0
    | some index => if cfg.lastQuizOf index = some last.quizId then index + 1 else index

/-- The entry of one quiz in `fillQuizInformation`; `none` where the source
    throws: a quiz in no section that is not completed reads `.quiz` of
    `QuizzesSections[NaN]`. -/
def quizInformation (orderedQuizzes : List QuizCompleted) (now : ℕ) (entry : String × ℕ) :
    Option QuizInfo :=
  let completed := (orderedQuizzes.find? (·.quizId == entry.1)).isSome
  match cfg.sectionOf entry.1 with
  | none => if completed then some ⟨entry.1, entry.2, true, none, none⟩ else none
  | some index =>
    if index ≠ 0 ∧ completed = false then
      let lastQuizCompleted := (cfg.lastQuizOf (index - 1)).bind fun lastQuizId =>
        orderedQuizzes.find? (·.quizId == lastQuizId)
      -- `lastQuizCompleted?.createdAt ?? new Date()`
      let lastSectionCompletedAt := (lastQuizCompleted.map (·.createdAt)).getD now
      some ⟨entry.1, entry.2, false, some index,
        some (lastSectionCompletedAt + milliSecondsBetweenSections)⟩
    else some ⟨entry.1, entry.2, completed, some index, none⟩

/-- `fillQuizInformation`, with `now` the clock reading `new Date()`. -/
def fillQuizInformation (quizzesCompleted : List QuizCompleted) (now : ℕ) :
    Option FillQuizInformationResult :=
  let orderedQuizzes := cfg.reorderQuizzes quizzesCompleted
  (cfg.values.mapM (cfg.quizInformation orderedQuizzes now)).map fun quizzes =>
    ⟨cfg.lastSectionCompleted orderedQuizzes, quizzes⟩

/-- `listQuizzesByAccountId`: the quizzes of `fetchAll` filled in. -/
def listQuizzesByAccountId (records : List QuizCompleted) (now : ℕ) : Option (List QuizInfo) :=
  (cfg.fillQuizInformation records now).map (·.quizzes)

end QuizConfig

-- ============================================================================
-- What a listing says
-- ============================================================================

/-- The entry that a listing shows for a quiz id says it is completed. -/
def ListedCompleted (quizzes : List QuizInfo) (quizId : String) : Prop :=
  ∃ info, quizzes.find? (·.id == quizId) = some info ∧ info.completed = true

/-- Each value of a successful `mapM` in `Option` comes from an element. -/
theorem mem_of_mapM_eq_some {α β : Type} {f : α → Option β} {l : List α} {l' : List β}
    (h : l.mapM f = some l') {b : β} (hb : b ∈ l') : ∃ a ∈ l, f a = some b := by
  induction l generalizing l' with
  | nil =>
    cases h
    cases hb
  | cons a l ih =>
    rw [List.mapM_cons] at h
    cases hHead : f a with
    | none => simp [hHead] at h
    | some b' =>
      cases hTail : l.mapM f with
      | none => simp [hHead, hTail] at h
      | some bs =>
        simp only [hHead, hTail, Option.pure_def, Option.bind_eq_bind, Option.bind_some,
          Option.some.injEq] at h
        subst h
        rcases List.mem_cons.mp hb with rfl | hb
        · exact ⟨a, List.mem_cons_self, hHead⟩
        · obtain ⟨a', ha', hf⟩ := ih hTail hb
          exact ⟨a', List.mem_cons_of_mem a ha', hf⟩

/-- Each element of a successful `mapM` in `Option` has its value in the result. -/
theorem exists_of_mapM_eq_some {α β : Type} {f : α → Option β} {l : List α} {l' : List β}
    (h : l.mapM f = some l') {a : α} (ha : a ∈ l) : ∃ b ∈ l', f a = some b := by
  induction l generalizing l' with
  | nil => cases ha
  | cons a' l ih =>
    rw [List.mapM_cons] at h
    cases hHead : f a' with
    | none => simp [hHead] at h
    | some b' =>
      cases hTail : l.mapM f with
      | none => simp [hHead, hTail] at h
      | some bs =>
        simp only [hHead, hTail, Option.pure_def, Option.bind_eq_bind, Option.bind_some,
          Option.some.injEq] at h
        subst h
        rcases List.mem_cons.mp ha with rfl | ha
        · exact ⟨b', List.mem_cons_self, hHead⟩
        · obtain ⟨b, hb, hf⟩ := ih hTail ha
          exact ⟨b, List.mem_cons_of_mem b' hb, hf⟩

/-- `find` by quiz id returns a document of the list with that id. -/
theorem find?_quizId_eq_some {quizzes : List QuizCompleted} {quizId : String} {c : QuizCompleted}
    (h : quizzes.find? (·.quizId == quizId) = some c) : c ∈ quizzes ∧ c.quizId = quizId := by
  have hId := List.find?_some h
  exact ⟨List.mem_of_find?_eq_some h, by simpa using hId⟩

namespace QuizConfig

variable {cfg : QuizConfig}

/-- `QuizzesValue[quizId]` is the value of the entry with that key. -/
theorem valueOf_eq_some_iff {quizId : String} {amount : ℕ} :
    cfg.valueOf quizId = some amount ↔ (quizId, amount) ∈ cfg.values := by
  constructor
  · intro h
    obtain ⟨entry, hFind, rfl⟩ := Option.map_eq_some_iff.mp h
    have hKey : entry.1 = quizId := by simpa using List.find?_some hFind
    rw [← hKey]
    exact List.mem_of_find?_eq_some hFind
  · intro hMem
    have hSome : (cfg.values.find? (·.1 == quizId)).isSome := by
      rw [List.find?_isSome]
      exact ⟨_, hMem, by simp⟩
    obtain ⟨entry, hFind⟩ := Option.isSome_iff_exists.mp hSome
    -- the keys are distinct, so the entry found is the one given
    have hKey : entry.1 = quizId := by simpa using List.find?_some hFind
    have hEntry : entry = (quizId, amount) :=
      List.inj_on_of_nodup_map cfg.keys_nodup (List.mem_of_find?_eq_some hFind) hMem hKey
    simp [valueOf, hFind, hEntry]

/-- The values summed by key are the values summed by entry. -/
theorem sum_map_valueOf :
    ((cfg.values.map (·.1)).map fun quizId => (cfg.valueOf quizId).getD 0).sum =
      (cfg.values.map (·.2)).sum := by
  rw [List.map_map]
  congr 1
  apply List.map_congr_left
  intro entry hEntry
  simp [valueOf_eq_some_iff.mpr hEntry]

/-- Sorting keeps the documents. -/
theorem mem_reorderQuizzes {quizzes : List QuizCompleted} {c : QuizCompleted} :
    c ∈ cfg.reorderQuizzes quizzes ↔ c ∈ quizzes :=
  (List.perm_insertionSort _ _).mem_iff

/-- The entry of a quiz keeps its id and amount, and is completed exactly when
    the quiz has a document. -/
theorem quizInformation_eq_some {orderedQuizzes : List QuizCompleted} {now : ℕ}
    {entry : String × ℕ} {info : QuizInfo}
    (h : cfg.quizInformation orderedQuizzes now entry = some info) :
    info.id = entry.1 ∧ info.amount = entry.2 ∧
      (info.completed = true ↔ ∃ c ∈ orderedQuizzes, c.quizId = entry.1) := by
  have hCompleted : (orderedQuizzes.find? (·.quizId == entry.1)).isSome = true ↔
      ∃ c ∈ orderedQuizzes, c.quizId = entry.1 := by
    simp [List.find?_isSome]
  unfold quizInformation at h
  dsimp only at h
  split at h
  · split at h
    · cases h
      rename_i hFound
      exact ⟨rfl, rfl, by simpa using hCompleted.mp hFound⟩
    · cases h
  · split at h
    · rename_i hGate
      cases h
      exact ⟨rfl, rfl, by simpa [hGate.2] using hCompleted⟩
    · cases h
      exact ⟨rfl, rfl, hCompleted⟩

/-- The gate of a quiz of section `s + 1` that is not completed: it may not be
    claimed before `milliSecondsBetweenSections` after the completion of the
    last quiz of section `s`, or, when that quiz has no document, after the
    clock reading of the listing. -/
theorem quizInformation_notBefore {orderedQuizzes : List QuizCompleted} {now : ℕ}
    {entry : String × ℕ} {info : QuizInfo} {s : ℕ}
    (h : cfg.quizInformation orderedQuizzes now entry = some info) (hOpen : info.completed = false)
    (hSection : cfg.sectionOf entry.1 = some (s + 1)) :
    ∃ T, info.notBefore = some (T + milliSecondsBetweenSections) ∧
      ((∃ c ∈ orderedQuizzes, cfg.lastQuizOf s = some c.quizId ∧ T = c.createdAt) ∨ T = now) := by
  unfold quizInformation at h
  rw [hSection] at h
  dsimp only at h
  split at h
  · cases h
    rw [Nat.add_sub_cancel]
    cases hLast : (cfg.lastQuizOf s).bind fun lastQuizId =>
        orderedQuizzes.find? (·.quizId == lastQuizId) with
    | none => exact ⟨now, by simp, .inr rfl⟩
    | some c =>
      refine ⟨c.createdAt, by simp, .inl ⟨c, ?_⟩⟩
      obtain ⟨lastQuizId, hLastQuiz, hFind⟩ := Option.bind_eq_some_iff.mp hLast
      obtain ⟨hMem, hId⟩ := find?_quizId_eq_some hFind
      exact ⟨hMem, by rw [hLastQuiz, hId], rfl⟩
  · rename_i hGate
    cases h
    exact absurd ⟨by omega, hOpen⟩ hGate

/-- The entry that a listing gives for a quiz id comes from the values. -/
theorem listQuizzesByAccountId_find? {records : List QuizCompleted} {now : ℕ}
    {quizzes : List QuizInfo} {quizId : String} {info : QuizInfo}
    (h : cfg.listQuizzesByAccountId records now = some quizzes)
    (hFind : quizzes.find? (·.id == quizId) = some info) :
    ∃ entry ∈ cfg.values, entry.1 = quizId ∧
      cfg.quizInformation (cfg.reorderQuizzes records) now entry = some info := by
  unfold listQuizzesByAccountId fillQuizInformation at h
  obtain ⟨result, hFill, rfl⟩ := Option.map_eq_some_iff.mp h
  obtain ⟨infos, hMapM, rfl⟩ := Option.map_eq_some_iff.mp hFill
  obtain ⟨entry, hEntry, hInfo⟩ := mem_of_mapM_eq_some hMapM (List.mem_of_find?_eq_some hFind)
  have hId : info.id = quizId := by simpa using List.find?_some hFind
  exact ⟨entry, hEntry, (quizInformation_eq_some hInfo).1.symm.trans hId, hInfo⟩

/-- A listing shows every quiz with a document, and a value, as completed. -/
theorem listQuizzesByAccountId_completed {records : List QuizCompleted} {now : ℕ}
    {quizzes : List QuizInfo} (h : cfg.listQuizzesByAccountId records now = some quizzes)
    {c : QuizCompleted} (hc : c ∈ records) {amount : ℕ} (hValue : cfg.valueOf c.quizId = some amount) :
    ListedCompleted quizzes c.quizId := by
  have hListed : ∃ info ∈ quizzes, info.id = c.quizId := by
    unfold listQuizzesByAccountId fillQuizInformation at h
    obtain ⟨result, hFill, rfl⟩ := Option.map_eq_some_iff.mp h
    obtain ⟨infos, hMapM, rfl⟩ := Option.map_eq_some_iff.mp hFill
    obtain ⟨info, hInfo, hQuiz⟩ := exists_of_mapM_eq_some hMapM (valueOf_eq_some_iff.mp hValue)
    exact ⟨info, hInfo, (quizInformation_eq_some hQuiz).1⟩
  -- `find` stops at an entry of the same quiz, which is completed since `c` has a document
  obtain ⟨info, hFind⟩ : ∃ info, quizzes.find? (·.id == c.quizId) = some info := by
    obtain ⟨info, hInfo, hId⟩ := hListed
    exact Option.isSome_iff_exists.mp (List.find?_isSome.mpr ⟨info, hInfo, by simp [hId]⟩)
  obtain ⟨entry, -, hKey, hEntry⟩ := listQuizzesByAccountId_find? h hFind
  refine ⟨info, hFind, ((quizInformation_eq_some hEntry).2.2).mpr ⟨c, ?_, hKey.symm⟩⟩
  exact mem_reorderQuizzes.mpr hc

end QuizConfig

end Quiz

end Galoy
