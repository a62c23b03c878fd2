import Mathlib.Data.List.Basic

set_option linter.all false

/-!
How the conversation is cut to its budget, `app/agent/token_budget.py`: the older
messages are dropped, or replaced by a summary of them.
-/
namespace TokenBudget

abbrev Texto := List Char

/-- A value of a message: a text, or what `str` shows of anything else. -/
inductive Value where
  | str (t : Texto)
  | other (shown : Texto)
  deriving DecidableEq

/-- A dictionary of a chat message. -/
abbrev Message := List (String × Value)

structure TokenBudgetConfig where
  maxContextTokens : Int
  messagesToPreserve : Int
  enableAutoSummarization : Bool
  deriving DecidableEq

/-- Where a Python slice bound falls in a list of this length. -/
def bound (length : Nat) (i : Int) : Nat := if i < 0 then (length + i).toNat else i.toNat

/-- `l[i:]` -/
def sliceFrom {α : Type} (l : List α) (i : Int) : List α := l.drop (bound l.length i)

/-- `l[:i]` -/
def sliceTo {α : Type} (l : List α) (i : Int) : List α := l.take (bound l.length i)

def isSystem (m : Message) : Bool := m.lookup "role" = some (.str "system".toList)

def systemMsgs (messages : List Message) : List Message := messages.filter isSystem

def convMsgs (messages : List Message) : List Message := messages.filter (!isSystem ·)

def Value.shown : Value → Texto
  | .str t => t
  | .other shown => shown

def preview (m : Message) : Texto :=
  match (m.lookup "content").getD (.str []) with
  | .str t => if t.length > 200 then t.take 200 ++ "...".toList else t
  | .other _ => "[multi-part content]".toList

/-- What the summary says of a message. -/
def summaryPart (m : Message) : Texto :=
  let role := ((m.lookup "role").getD (.str "unknown".toList)).shown
  '[' :: role ++ "]: ".toList ++ preview m

def summaryText (older : List Message) : Texto :=
  "CONTEXT SUMMARY (auto-generated):\n".toList ++ ['\n'].intercalate (older.map summaryPart)

def capped (maxSummaryChars : Int) (t : Texto) : Texto :=
  if t.length > maxSummaryChars then
    sliceTo t maxSummaryChars ++ "\n... [summary truncated]".toList
  else t

/-- `int(tokens * 4.0 * 0.15)` -/
def maxSummaryChars (config : TokenBudgetConfig) (scale : Int → Int) : Int :=
  scale config.maxContextTokens

def summaryMsg (text : Texto) : Message :=
  [("role", .str "system".toList), ("content", .str text)]

variable (scale : Int → Int) (config : TokenBudgetConfig)

def summarizeOlderMessages (messages : List Message) : List Message :=
  let preserveCount := config.messagesToPreserve
  let conv := convMsgs messages
  if !config.enableAutoSummarization then messages
  else if messages.length ≤ preserveCount + 1 then messages
  else if conv.length ≤ preserveCount then messages
  else
    let older := sliceTo conv (-preserveCount)
    let recent := sliceFrom conv (-preserveCount)
    systemMsgs messages ++ [summaryMsg (capped (maxSummaryChars config scale) (summaryText older))]
      ++ recent

def truncateOlderMessages (messages : List Message) : List Message :=
  let preserveCount := config.messagesToPreserve
  let conv := convMsgs messages
  let recent := if conv.length > preserveCount then sliceFrom conv (-preserveCount) else conv
  systemMsgs messages ++ recent

/-! What is promised -/

/-- The last messages of the conversation, as many as are preserved. -/
def lastMessages (n : Nat) (messages : List Message) : List Message :=
  (convMsgs messages).drop ((convMsgs messages).length - n)

/-- The messages of the conversation before them. -/
def olderMessages (n : Nat) (messages : List Message) : List Message :=
  (convMsgs messages).take ((convMsgs messages).length - n)

/-- A message that tells each of the older ones, up to the cap. -/
structure Summarizes (cap : Int) (older : List Message) (m : Message) : Prop where
  system : isSystem m = true
  mentions : ∃ full, (∀ o ∈ older, summaryPart o <:+: full) ∧
    m.lookup "content" = some (.str (capped cap full))

structure Promised (n : Nat) (messages : List Message) : Prop where
  truncated : truncateOlderMessages config messages = systemMsgs messages ++ lastMessages n messages
  summarized :
    summarizeOlderMessages scale config messages = messages ∧
        (config.enableAutoSummarization = false ∨ olderMessages n messages = []) ∨
      ∃ m, Summarizes (maxSummaryChars config scale) (olderMessages n messages) m ∧
        summarizeOlderMessages scale config messages =
          systemMsgs messages ++ [m] ++ lastMessages n messages
  truncatedOnce : truncateOlderMessages config (truncateOlderMessages config messages) =
    truncateOlderMessages config messages
  summarizedOnce :
    summarizeOlderMessages scale config (summarizeOlderMessages scale config messages) =
      summarizeOlderMessages scale config messages

variable {scale : Int → Int} {config : TokenBudgetConfig} {messages s c : List Message} {n : Nat}

theorem length_msgs (messages : List Message) :
    messages.length = (systemMsgs messages).length + (convMsgs messages).length :=
  List.length_eq_length_filter_add isSystem

theorem systemMsgs_append (system : ∀ m ∈ s, isSystem m = true) (conv : ∀ m ∈ c, isSystem m = false) :
    systemMsgs (s ++ c) = s := by
  rw [systemMsgs, List.filter_append, List.filter_eq_self.mpr system,
    List.filter_eq_nil_iff.mpr (by simpa using conv), List.append_nil]

theorem convMsgs_append (system : ∀ m ∈ s, isSystem m = true) (conv : ∀ m ∈ c, isSystem m = false) :
    convMsgs (s ++ c) = c := by
  rw [convMsgs, List.filter_append, List.filter_eq_nil_iff.mpr (by simpa using system),
    List.filter_eq_self.mpr (by simpa using conv), List.nil_append]

theorem mem_systemMsgs {m : Message} (mem : m ∈ systemMsgs messages) : isSystem m = true :=
  (List.mem_filter.mp mem).2

theorem mem_convMsgs {m : Message} (mem : m ∈ convMsgs messages) : isSystem m = false := by
  have kept := (List.mem_filter.mp mem).2
  simpa using kept

theorem mem_lastMessages {m : Message} (mem : m ∈ lastMessages n messages) : isSystem m = false :=
  mem_convMsgs (List.mem_of_mem_drop mem)

theorem length_lastMessages : (lastMessages n messages).length ≤ n := by
  rw [lastMessages, List.length_drop]
  omega

theorem bound_neg {length : Nat} (positive : 0 < n) : bound length (-n) = length - n := by
  unfold bound
  split <;> omega

theorem sliceFrom_conv (positive : 0 < n) :
    sliceFrom (convMsgs messages) (-n) = lastMessages n messages := by
  rw [sliceFrom, bound_neg positive, lastMessages]

theorem sliceTo_conv (positive : 0 < n) :
    sliceTo (convMsgs messages) (-n) = olderMessages n messages := by
  rw [sliceTo, bound_neg positive, olderMessages]

/-- With no message before the last ones, these are the conversation. -/
theorem lastMessages_eq (few : (convMsgs messages).length ≤ n) :
    lastMessages n messages = convMsgs messages := by
  rw [lastMessages, Nat.sub_eq_zero_of_le few, List.drop_zero]

theorem olderMessages_eq_nil : olderMessages n messages = [] ↔ (convMsgs messages).length ≤ n := by
  rw [olderMessages, List.take_eq_nil_iff, ← List.length_eq_zero_iff]
  omega

theorem truncate_few (few : (convMsgs messages).length ≤ n) :
    truncateOlderMessages { config with messagesToPreserve := n } messages =
      systemMsgs messages ++ convMsgs messages := by
  unfold truncateOlderMessages
  simp only
  rw [if_neg (by omega)]

theorem truncate_eq (positive : 0 < n) :
    truncateOlderMessages { config with messagesToPreserve := n } messages =
      systemMsgs messages ++ lastMessages n messages := by
  by_cases few : (convMsgs messages).length ≤ n
  · rw [truncate_few few, lastMessages_eq few]
  · unfold truncateOlderMessages
    simp only
    rw [if_pos (by omega), sliceFrom_conv positive]

/-- Nothing is dropped of what a cut has left. -/
theorem truncate_cut (system : ∀ m ∈ s, isSystem m = true) (conv : ∀ m ∈ c, isSystem m = false)
    (few : c.length ≤ n) :
    truncateOlderMessages { config with messagesToPreserve := n } (s ++ c) = s ++ c := by
  have rest := convMsgs_append system conv
  rw [truncate_few (by rw [rest]; exact few), rest, systemMsgs_append system conv]

theorem summarize_few (few : (convMsgs messages).length ≤ n) :
    summarizeOlderMessages scale { config with messagesToPreserve := n } messages = messages := by
  unfold summarizeOlderMessages
  simp only
  split
  · rfl
  · split
    · rfl
    · rw [if_pos (by omega)]

theorem summarize_cut (system : ∀ m ∈ s, isSystem m = true) (conv : ∀ m ∈ c, isSystem m = false)
    (few : c.length ≤ n) :
    summarizeOlderMessages scale { config with messagesToPreserve := n } (s ++ c) = s ++ c :=
  summarize_few (by rw [convMsgs_append system conv]; exact few)

/-- The summary that takes the place of the older messages. -/
def summaryOf (scale : Int → Int) (config : TokenBudgetConfig) (n : Nat) (messages : List Message) :
    Message :=
  summaryMsg (capped (maxSummaryChars config scale) (summaryText (olderMessages n messages)))

theorem summarize_eq (positive : 0 < n) (enabled : config.enableAutoSummarization = true)
    (many : n < (convMsgs messages).length) (more : n + 1 < messages.length) :
    summarizeOlderMessages scale { config with messagesToPreserve := n } messages =
      systemMsgs messages ++ [summaryOf scale config n messages] ++ lastMessages n messages := by
  unfold summarizeOlderMessages
  simp only [enabled]
  rw [if_neg (by simp), if_neg (by omega), if_neg (by omega), sliceFrom_conv positive,
    sliceTo_conv positive]
  rfl

theorem infix_intercalate {α : Type} {sep l : List α} {ls : List (List α)} (mem : l ∈ ls) :
    l <:+: sep.intercalate ls := by
  induction ls with
  | nil => cases mem
  | cons first ls ih =>
    cases ls with
    | nil =>
      rw [List.mem_singleton.mp mem]
      simp [List.intercalate]
    | cons second ls =>
      have split_ : sep.intercalate (first :: second :: ls) =
          first ++ (sep ++ sep.intercalate (second :: ls)) := by
        simp [List.intercalate, List.intersperse]
      rw [split_]
      rcases List.mem_cons.mp mem with rfl | later
      · exact (List.prefix_append _ _).isInfix
      · exact (ih later).trans ((List.suffix_append _ _).trans (List.suffix_append _ _)).isInfix

theorem summaryOf_summarizes : Summarizes (maxSummaryChars config scale) (olderMessages n messages)
    (summaryOf scale config n messages) where
  system := rfl
  mentions := by
    refine ⟨summaryText (olderMessages n messages), fun o mem => ?_, rfl⟩
    exact (infix_intercalate (List.mem_map_of_mem mem)).trans (List.suffix_append _ _).isInfix

end TokenBudget
