import ContractCalls.Rpc.Error
import Mathlib.Tactic

/-!
# Wordings in the text of an error

The kind of an error hangs on wordings that stand anywhere in its text, also where one only ends a
longer word. The wordings of a revert go before those of a transaction that is known already.
-/

namespace ContractCalls

namespace Text

lemma contains_iff_isInfix {wording text : List Char} :
    contains wording text ↔ wording <:+: text := by
  induction text with
  | nil => simp [contains]
  | cons c text ih =>
    rw [contains, Bool.or_eq_true, ih, List.isPrefixOf_iff_prefix, List.infix_cons_iff]

/-- A wording stands in a text at a place where it does not go on a word: the character before it is
no letter. -/
def StandsAlone (isLetter : Char → Bool) (wording text : List Char) : Prop :=
  ∃ n ≤ text.length, wording <+: text.drop n ∧ (text.take n).getLast?.any isLetter = false

instance (isLetter : Char → Bool) (wording text : List Char) :
    Decidable (StandsAlone isLetter wording text) :=
  inferInstanceAs (Decidable (∃ n ≤ text.length, _ ∧ _))

end Text

namespace ErrorKind

/-- One of the wordings stands somewhere in the message, in whatever case. -/
def Mentions (wordings : List String) (message : String) : Prop :=
  ∃ wording ∈ wordings, wording.toList <:+: Text.lower message

/-- One of the wordings stands in the message where it does not go on a word. -/
def MentionsAlone (isLetter : Char → Bool) (wordings : List String) (message : String) : Prop :=
  ∃ wording ∈ wordings, Text.StandsAlone isLetter wording.toList (Text.lower message)

instance (isLetter : Char → Bool) (wordings : List String) (message : String) :
    Decidable (MentionsAlone isLetter wordings message) :=
  inferInstanceAs (Decidable (∃ wording ∈ wordings, _))

lemma any_contains_iff_mentions {wordings : List String} {message : String} :
    wordings.any (fun wording => Text.contains wording.toList (Text.lower message)) ↔
      Mentions wordings message := by
  simp only [List.any_eq_true, Text.contains_iff_isInfix, Mentions]

lemma isRevert_ofMessage_iff {message : String} :
    (ofMessage message).isRevert = true ↔ Mentions revertWordings message := by
  rw [← any_contains_iff_mentions, ofMessage]
  split
  · next hrevert => simpa [isRevert] using hrevert
  · next hrevert =>
    refine iff_of_false ?_ hrevert
    split
    · decide
    · split <;> decide

/-- A transaction counts as known if a wording says so and none says that it was reverted. -/
lemma ofMessage_eq_alreadyKnown_iff {message : String} : ofMessage message = .alreadyKnown ↔
    Mentions knownWordings message ∧ ¬Mentions revertWordings message := by
  rw [← any_contains_iff_mentions, ← any_contains_iff_mentions, ofMessage]
  split
  · next hrevert => simp [hrevert]
  · next hrevert =>
    split
    · next hknown => simp [hknown, hrevert]
    · next hknown => split <;> simp [hknown]

/-- The message has a wording of a known transaction only at the end of longer words, and none of a
revert, so that it counts as one about a known transaction without saying so. -/
structure IsMisread (isLetter : Char → Bool) (message : String) : Prop where
  mentions : Mentions knownWordings message
  not_revert : ¬Mentions revertWordings message
  not_alone : ¬MentionsAlone isLetter knownWordings message

lemma isMisread_iff {isLetter : Char → Bool} {message : String} : IsMisread isLetter message ↔
    (Mentions knownWordings message ∧ ¬Mentions revertWordings message) ∧
      ¬MentionsAlone isLetter knownWordings message :=
  ⟨fun h => ⟨⟨h.mentions, h.not_revert⟩, h.not_alone⟩, fun h => ⟨h.1.1, h.1.2, h.2⟩⟩

end ErrorKind

end ContractCalls
