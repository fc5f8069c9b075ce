import Emend.Proofs.Repair.Soundness
import Emend.Proofs.Repair.TwoRuns

/-!
# Repair sees the words only

A command comes with more than its intent and target: the text it was typed as, its modifiers and
the metadata of the request.  This is its *setting*.  Of the four strategies one looks into it,
the one that brings modifiers to their normal form, and that one has nothing to say about a command
that is not grammatical, for whether it is grammatical the words alone decide.  So for such a
command the setting is carried along and never looked at.

`Command.inSetting` puts a command in another setting, and each function of the repair commutes with
it: `Strategy.attempt_inSetting` for the strategies, `tryStrategies_inSetting` for a chain, by
induction.  `repair_sees_words_only` reads this as a statement about two runs: commands of the same
words come to the same result, each in its own setting.
-/

namespace Emend

/-! ## Commands -/

/-- What a command comes with beside its words. -/
structure Command.Setting where
  raw : String
  modifiers : Dict
  metadata : Metadata
deriving DecidableEq

namespace Command

/-- What this command comes with. -/
def setting (c : Command) : Setting := ⟨c.raw, c.modifiers, c.metadata⟩

/-- The words of a command. -/
def words (c : Command) : String × String := (c.intent, c.target)

/-- The same words in another setting. -/
def inSetting (x : Setting) (c : Command) : Command :=
  { c with raw := x.raw, modifiers := x.modifiers, metadata := x.metadata }

variable (x : Setting) (c : Command)

@[simp] theorem inSetting_setting : c.inSetting c.setting = c := rfl

/-- The grammar looks at the words only. -/
theorem validateCommand_inSetting (v : Vocabulary) :
    v.validateCommand (c.inSetting x) = v.validateCommand c := rfl

/-- What is approved keeps the setting that it comes with. -/
theorem approve_inSetting (v : Vocabulary) :
    v.approve (c.inSetting x) = (v.approve c).map (inSetting x) := by
  unfold Vocabulary.approve
  rw [validateCommand_inSetting]
  cases v.validateCommand c <;> rfl

/-- Unmarked commands of the same words differ in their setting only. -/
theorem inSetting_of_words_eq {c d : Command} (hwords : c.words = d.words)
    (hmark : c.isValid = d.isValid) : c.inSetting d.setting = d := by
  obtain ⟨hintent, htarget⟩ := Prod.mk.inj hwords
  cases c
  cases d
  simp_all [inSetting, setting]

end Command

/-! ## Proposals -/

namespace Proposal

/-- The same proposal with its commands in another setting. -/
def inSetting (x : Command.Setting) : Proposal → Proposal
  | single command confidence explanation => single (command.inSetting x) confidence explanation
  | options candidates confidence explanation =>
    options (candidates.map (·.inSetting x)) confidence explanation

end Proposal

namespace Strategy

variable (v : Vocabulary) (x : Command.Setting) (c : Command)

/-- An approved command, proposed on its own. -/
theorem approved_inSetting (confidence : Binary64) (explanation : String) :
    (v.approve (c.inSetting x)).map (fun d => Proposal.single d confidence explanation) =
      ((v.approve c).map fun d => .single d confidence explanation).map (Proposal.inSetting x) := by
  rw [Command.approve_inSetting]
  cases v.approve c <;> rfl

/-- Other words may be proposed in any setting. -/
theorem reorder_inSetting (explanation : String) :
    reorder v (c.inSetting x) explanation = (reorder v c explanation).map (.inSetting x) :=
  approved_inSetting v x c _ _

/-- A proposal made on a condition on the words. -/
theorem guarded_inSetting {condition : Prop} [Decidable condition] {p q : Option Proposal}
    (h : p = q.map (.inSetting x)) :
    (if condition then p else none) = (if condition then q else none).map (.inSetting x) := by
  split
  · exact h
  · rfl

theorem swapArguments_inSetting :
    swapArguments v (c.inSetting x) = (swapArguments v c).map (.inSetting x) :=
  guarded_inSetting x (reorder_inSetting v x (c.restate (lowercase c.target) c.intent) _)

theorem promoteTarget_inSetting :
    promoteTarget v (c.inSetting x) = (promoteTarget v c).map (.inSetting x) :=
  guarded_inSetting x (reorder_inSetting v x (c.restate (lowercase c.target) "") _)

theorem assumeDefaultIntent_inSetting :
    assumeDefaultIntent v (c.inSetting x) = (assumeDefaultIntent v c).map (.inSetting x) :=
  guarded_inSetting x (reorder_inSetting v x (c.restate v.defaultIntent c.intent) _)

/-- Argument order looks at the words only. -/
theorem orderArguments_inSetting :
    orderArguments v (c.inSetting x) = (orderArguments v c).map (.inSetting x) := by
  unfold orderArguments
  rw [swapArguments_inSetting, promoteTarget_inSetting, assumeDefaultIntent_inSetting]
  cases swapArguments v c with
  | some => rfl
  | none => cases promoteTarget v c <;> rfl

theorem expandSynonym_inSetting :
    expandSynonym v (c.inSetting x) = (expandSynonym v c).map (.inSetting x) := by
  have hsame : v.synonym? (c.inSetting x).intent = v.synonym? c.intent := rfl
  unfold expandSynonym
  rw [hsame]
  cases v.synonym? c.intent with
  | none => rfl
  | some canonical => exact approved_inSetting v x (c.restate canonical c.target) _ _

/-- The same readings are approved in any setting. -/
theorem filterMap_approve_inSetting (readings : List Command) :
    (readings.map (·.inSetting x)).filterMap v.approve =
      (readings.filterMap v.approve).map (·.inSetting x) := by
  rw [List.filterMap_map, List.map_filterMap]
  exact List.filterMap_congr fun c _ => Command.approve_inSetting x c v

/-- Readings are proposed alike in any setting. -/
theorem propose_inSetting (readings : List Command) (level optionsLevel : Binary64)
    (explanation optionsExplanation : String) :
    propose v (readings.map (·.inSetting x)) level explanation optionsLevel optionsExplanation =
      (propose v readings level explanation optionsLevel optionsExplanation).map
        (.inSetting x) := by
  cases readings with
  | nil => rfl
  | cons first rest =>
      cases rest with
      | nil => exact approved_inSetting v x first _ _
      | cons second rest =>
          have happroved := filterMap_approve_inSetting v x (first :: second :: rest)
          simp only [List.map_cons] at happroved
          simp only [propose, List.map_cons, happroved]
          cases (first :: second :: rest).filterMap v.approve <;> rfl

/-- One word is corrected in any setting. -/
theorem correctWord_inSetting (token : String) (found : List NearEntry)
    (restate : String → Command) :
    correctWord v token found (fun entry => (restate entry).inSetting x) =
      (correctWord v token found restate).map (.inSetting x) := by
  have hreadings : found.map (fun m => (restate m.entry).inSetting x) =
      (found.map fun m => restate m.entry).map (·.inSetting x) := by
    rw [List.map_map]
    rfl
  unfold correctWord
  rw [hreadings]
  exact propose_inSetting v x _ _ _ _ _

theorem correctPair_inSetting (intents targets : List NearEntry) :
    correctPair v (c.inSetting x) intents targets =
      (correctPair v c intents targets).map (.inSetting x) := by
  have hreadings :
      (intents.flatMap fun i => targets.map fun t =>
        (c.inSetting x).restate i.entry t.entry) =
      (intents.flatMap fun i => targets.map fun t => c.restate i.entry t.entry).map
        (·.inSetting x) := by
    rw [List.map_flatMap]
    simp only [List.map_map]
    rfl
  unfold correctPair
  rw [hreadings]
  exact propose_inSetting v x _ _ _ _ _

/-- Corrections look at the words only. -/
theorem correctTypos_inSetting :
    correctTypos v (c.inSetting x) = (correctTypos v c).map (.inSetting x) := by
  have hintents : intentMatches? v (c.inSetting x) = intentMatches? v c := rfl
  have htargets : targetMatches? v (c.inSetting x) = targetMatches? v c := rfl
  unfold correctTypos
  rw [hintents, htargets]
  cases intentMatches? v c with
  | none =>
      cases targetMatches? v c with
      | none => rfl
      | some targets => exact correctWord_inSetting v x c.target targets (c.restate c.intent ·)
  | some intents =>
      cases targetMatches? v c with
      | none => exact correctWord_inSetting v x c.intent intents (c.restate · c.target)
      | some targets => exact correctPair_inSetting v x c intents targets

variable {v c}

/-- **A strategy sees the words only**, of a command that is not grammatical. -/
theorem attempt_inSetting (hinvalid : v.validateCommand c ≠ .ok ()) (s : Strategy) :
    s.attempt v (c.inSetting x) = (s.attempt v c).map (.inSetting x) := by
  cases s with
  | flagNormalization =>
      have hnone : normalizeModifiers v (c.inSetting x) = none :=
        normalizeModifiers_eq_none hinvalid
      simp only [attempt, normalizeModifiers_eq_none hinvalid, hnone, Option.map_none]
  | argumentOrder => exact orderArguments_inSetting v x c
  | synonymExpansion => exact expandSynonym_inSetting v x c
  | typoCorrection => exact correctTypos_inSetting v x c

end Strategy

/-! ## Results -/

namespace RepairResult

/-- The same result for a command in another setting. -/
def inSetting (x : Command.Setting) (r : RepairResult) : RepairResult :=
  { r with
    submitted := r.submitted.inSetting x
    repaired := r.repaired.map (·.inSetting x)
    candidates := r.candidates.map (·.inSetting x) }

variable (x : Command.Setting)

/-- A result can be put in another setting before or after it is made. -/
theorem ofProposal_inSetting (c : Command) (s : Strategy) (p : Proposal) :
    ofProposal (c.inSetting x) s (p.inSetting x) = (ofProposal c s p).inSetting x := by
  cases p <;> rfl

/-- The commands of a result are put in the setting one by one. -/
theorem commands_inSetting (r : RepairResult) :
    (r.inSetting x).commands = r.commands.map (·.inSetting x) := by
  unfold commands inSetting
  cases r.repaired <;> simp

/-- The policy asks of a result which commands there are and not what they say. -/
theorem action_inSetting (r : RepairResult) : (r.inSetting x).action = r.action :=
  action_congr (by simp [inSetting]) rfl (by simp [inSetting])

/-- Two results that were found in the same way, with the same confidence and for the same reasons,
with which the same is done, and whose commands have the same words, one by one. -/
structure SameInWords (r q : RepairResult) : Prop where
  finding : r.finding = q.finding
  confidence : r.confidence = q.confidence
  explanation : r.explanation = q.explanation
  action : r.action = q.action
  repaired : r.repaired.map Command.words = q.repaired.map Command.words
  candidates : r.candidates.map Command.words = q.candidates.map Command.words

/-- In another setting a result is the same in its words. -/
theorem sameInWords_inSetting (r : RepairResult) : r.SameInWords (r.inSetting x) where
  finding := rfl
  confidence := rfl
  explanation := rfl
  action := (action_inSetting x r).symm
  repaired := by
    rw [inSetting, Option.map_map]
    rfl
  candidates := by
    rw [inSetting, List.map_map]
    rfl

/-- All commands of a result have the setting that it was put in. -/
theorem setting_of_mem_commands {r : RepairResult} {d : Command}
    (h : d ∈ (r.inSetting x).commands) : d.setting = x := by
  rw [commands_inSetting] at h
  obtain ⟨e, -, rfl⟩ := List.mem_map.mp h
  rfl

end RepairResult

/-- Strategies tried in turn on a command that is not grammatical carry its setting along. -/
theorem tryStrategies_inSetting {v : Vocabulary} {c : Command}
    (hinvalid : v.validateCommand c ≠ .ok ()) (x : Command.Setting) (strategies : List Strategy) :
    tryStrategies v (c.inSetting x) strategies = (tryStrategies v c strategies).inSetting x := by
  induction strategies with
  | nil => rfl
  | cons s rest ih =>
      unfold tryStrategies
      rw [s.attempt_inSetting x hinvalid]
      cases s.attempt v c with
      | none => exact ih
      | some p => exact RepairResult.ofProposal_inSetting x c s p

/-- **Repair sees the words only.**  Let two commands have the same intent and the same target, and
let these not be grammatical.  Under any vocabulary and any chain of strategies, the results are the
same but for the settings: the same strategy, confidence, explanation and action, and commands of
the same words.  And every command of a result has the text, the modifiers and the metadata of the
command it is the result for. -/
theorem repair_sees_words_only (v : Vocabulary) (strategies : List Strategy) {c d : Command}
    (hc : c.isBlank = false ∧ c.isValid = false) (hd : d.isBlank = false ∧ d.isValid = false)
    (hintent : c.intent = d.intent) (htarget : c.target = d.target)
    (hinvalid : v.validateCommand c ≠ .ok ()) :
    ∃ r q, repair v strategies c = .ok r ∧ repair v strategies d = .ok q ∧ r.SameInWords q ∧
      (∀ e ∈ r.commands, e.raw = c.raw ∧ e.modifiers = c.modifiers ∧ e.metadata = c.metadata) ∧
      ∀ e ∈ q.commands, e.raw = d.raw ∧ e.modifiers = d.modifiers ∧ e.metadata = d.metadata := by
  have hwords : c.words = d.words := Prod.ext hintent htarget
  have hd_eq : c.inSetting d.setting = d :=
    Command.inSetting_of_words_eq hwords (hc.2.trans hd.2.symm)
  have hq : tryStrategies v d strategies =
      (tryStrategies v c strategies).inSetting d.setting := by
    rw [← tryStrategies_inSetting hinvalid, hd_eq]
  have hr : tryStrategies v c strategies =
      (tryStrategies v c strategies).inSetting c.setting := by
    rw [← tryStrategies_inSetting hinvalid, c.inSetting_setting]
  refine ⟨_, _, repair_eq_ok hc.1, repair_eq_ok hd.1, ?_⟩
  rw [RepairResult.ofChain_of_not_valid hc.2, RepairResult.ofChain_of_not_valid hd.2]
  refine ⟨?_, ?_, ?_⟩
  · rw [hq]
    exact RepairResult.sameInWords_inSetting _ _
  · intro e he
    rw [hr] at he
    simpa [Command.setting] using RepairResult.setting_of_mem_commands _ he
  · intro e he
    rw [hq] at he
    simpa [Command.setting] using RepairResult.setting_of_mem_commands _ he

/-- The same misspelled words, once with a modifier that is out of form and once for a project:
modifiers are brought to their normal form first in the chain, and still both commands get the two
candidates that the words have. -/
theorem repair_sees_words_only_anlyze_rild :
    let c : Command :=
      { raw := "mender anlyze rild --Dry-Run", intent := "anlyze", target := "rild",
        modifiers := .ofList [("Dry-Run", "TRUE")] }
    let d : Command :=
      { raw := "mender ANLYZE rild", intent := "anlyze", target := "rild",
        metadata := { projectPath := some "/srv/app" } }
    (c.isBlank = false ∧ c.isValid = false) ∧ (d.isBlank = false ∧ d.isValid = false) ∧
      c.intent = d.intent ∧ c.target = d.target ∧
      Vocabulary.builtIn.validateCommand c ≠ .ok () ∧
      ∃ r q, repair .builtIn Strategy.all c = .ok r ∧ repair .builtIn Strategy.all d = .ok q ∧
        r.candidates.map Command.words = [("analyze", "risk"), ("analyze", "build")] ∧
        r.SameInWords q ∧
        (∀ e ∈ r.commands, e.raw = c.raw ∧ e.modifiers = c.modifiers ∧ e.metadata = c.metadata) ∧
        ∀ e ∈ q.commands, e.raw = d.raw ∧ e.modifiers = d.modifiers ∧ e.metadata = d.metadata := by
  intro c d
  have hc : c.isBlank = false ∧ c.isValid = false := by decide +kernel
  have hd : d.isBlank = false ∧ d.isValid = false := by decide +kernel
  have hinvalid : Vocabulary.builtIn.validateCommand c ≠ .ok () := by decide +kernel
  obtain ⟨r, q, hr, hq, hsame, hown⟩ :=
    repair_sees_words_only .builtIn Strategy.all hc hd rfl rfl hinvalid
  have hwords : (repair .builtIn Strategy.all c).toOption.map
      (fun r => r.candidates.map Command.words) =
        some [("analyze", "risk"), ("analyze", "build")] := by
    decide +kernel
  rw [hr] at hwords
  exact ⟨hc, hd, rfl, rfl, hinvalid, r, q, hr, hq, Option.some.inj hwords, hsame, hown⟩

end Emend
