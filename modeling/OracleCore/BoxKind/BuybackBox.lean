import OracleCore.Chain.Box

/-!
# The buyback box

`BuybackBoxWrapper` wraps a box whose first token is the buyback NFT and
whose second, when there is one, is read as the reward token without checking
its id.  `new_with_one_reward_token` rebuilds the box at a new height with the
NFT and exactly one unit of the wrapper's reward token, whatever the box held.
A box's tokens are `Option<BoxTokens>` in `ergo-lib`, and `BoxTokens` is never
empty, so a box without tokens has `None` there and both methods' `unwrap`
panics on it.
-/

namespace OracleCore

/-- `BuybackBoxError` has no variants: the wrapper's methods only ever panic. -/
inductive BuybackBoxError

/-- `ergo_box.tokens`: `None` for a box without tokens. -/
def ErgoBox.tokensOption (box : ErgoBox) : Option (List Token) :=
  if box.tokens = [] then none else some box.tokens

structure BuybackBoxWrapper where
  ergoBox : ErgoBox
  rewardTokenId : TokenId
  deriving DecidableEq, Repr

namespace BuybackBoxWrapper

def new (ergoBox : ErgoBox) (rewardTokenId : TokenId) : BuybackBoxWrapper :=
  ⟨ergoBox, rewardTokenId⟩

def getBox (wrapper : BuybackBoxWrapper) : ErgoBox :=
  wrapper.ergoBox

/-- `reward_token`: the box's second token, tagged as the reward token unchecked. -/
def rewardToken (wrapper : BuybackBoxWrapper) : Except (Fault BuybackBoxError) (Option Token) := do
  let tokens ← unwrapSome wrapper.ergoBox.tokensOption
  pure (tokens[1]?.map fun token => ⟨token.tokenId, token.amount⟩)

/-- `new_with_one_reward_token`.  The two-token vector always converts to `BoxTokens`. -/
def newWithOneRewardToken (wrapper : BuybackBoxWrapper) (creationHeight : Nat) :
    Except (Fault BuybackBoxError) ErgoBoxCandidate := do
  let singleRewardToken : Token := ⟨wrapper.rewardTokenId, ← unwrap (TokenAmount.new 1)⟩
  let buybackNft ← unwrapSome (← unwrapSome wrapper.ergoBox.tokensOption).head?
  pure ⟨wrapper.ergoBox.value, wrapper.ergoBox.ergoTree, [buybackNft, singleRewardToken],
    wrapper.ergoBox.additionalRegisters, creationHeight⟩

end BuybackBoxWrapper

end OracleCore
