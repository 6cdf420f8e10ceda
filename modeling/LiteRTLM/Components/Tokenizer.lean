import LiteRTLM.Engine.Status
import LiteRTLM.Util.Json

/-!
Contract: the parts of `Tokenizer` that decoding uses.

Owns: the tokenizer as the text it gives for a sequence of ids, merging ids with the
ids held back before, and decoding one sequence per candidate.

Does not own: any vocabulary, and the encoding of text.
-/

namespace LiteRTLM.Components

open LiteRTLM.Engine
open LiteRTLM.Util

/-- `Tokenizer`. `TokenIdsToText` answers with a data loss error when the ids are part
of an incomplete BPE sequence. -/
structure Tokenizer where
  tokenIdsToText : List Int → StatusOr Text

namespace Tokenizer

/-- `MergeTokenIds`: each row of next ids is appended to the previous ids of its row. -/
def mergeTokenIds (previousTokenIds nextTokenIds : List (List Int)) :
    StatusOr (List (List Int)) :=
  if previousTokenIds.length ≠ nextTokenIds.length then
    .error (.invalidArgumentError "The previous and next token ids must have the same size.")
  else
    .ok (List.zipWith (· ++ ·) previousTokenIds nextTokenIds)

theorem mergeTokenIds_ok {previousTokenIds nextTokenIds merged : List (List Int)}
    (ok : mergeTokenIds previousTokenIds nextTokenIds = .ok merged) :
    previousTokenIds.length = nextTokenIds.length ∧
      merged = List.zipWith (· ++ ·) previousTokenIds nextTokenIds := by
  unfold mergeTokenIds at ok
  split at ok
  · cases ok
  · rename_i sameLength
    exact ⟨not_not.mp sameLength, (Except.ok.inj ok).symm⟩

def tokenIdsToTexts (tokenizer : Tokenizer) (batchSize : Nat) (tokenIds : List (List Int)) :
    StatusOr (List (StatusOr Text)) :=
  if tokenIds.length ≠ batchSize then
    .error (.invalidArgumentError
      "The token ID vector must have the same number of rows as the batch size.")
  else
    .ok (tokenIds.map tokenizer.tokenIdsToText)

def isIncompleteBpeSequence {α : Type} : StatusOr α → Bool
  | .ok _ => false
  | .error status => status.code = .dataLoss

end Tokenizer

end LiteRTLM.Components
