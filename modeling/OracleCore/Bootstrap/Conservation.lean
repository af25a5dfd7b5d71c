import OracleCore.Bootstrap.Budget
import OracleCore.Bootstrap.Submission

/-!
# What the bootstrap chain spends and creates

Every transaction of the chain is a selection spent into its fixed outputs, the
selection's change and the fee box.  The selector's change holds exactly what
the selected boxes hold beyond the target, so each transaction creates exactly
the nanoERG it spends.  Per token id, a minting transaction adds its minted
amount and keeps every other token; the pool-box transaction asks the selector
for the whole reward supply but gives the pool box the supply less the oracle
tokens, so it destroys one reward token per oracle token; the refresh-box
transaction keeps every token.  Each transaction spends only outputs of the one
before it under the wallet's key, and the last two also the NFT box that the
first or the second transaction made.
-/

namespace OracleCore

theorem TokenAmount.checkedSub_raw {left right result : TokenAmount}
    (made : left.checkedSub right = .ok result) : result.raw + right.raw = left.raw := by
  unfold TokenAmount.checkedSub at made
  split at made
  · have := TokenAmount.new_raw made
    omega
  · cases made

section Steps

variable {ctx : ChainContext}

/-- A transaction signed from a selection, whose fixed outputs and fee are worth the target,
creates the nanoERG it spends; per token id it creates the selected units beyond the targets
and what its fixed outputs hold. -/
theorem signed_balance {inputs : List ErgoBox} {targetBalance : BoxValue}
    {targetTokens : List Token} {selection : BoxSelection} {changeTree : ErgoTree}
    {kept : List ErgoBoxCandidate} {tx : Transaction}
    (selected : SimpleBoxSelector.select inputs targetBalance targetTokens = .ok selection)
    (spent : tx.inputs = selection.boxes)
    (made : tx.outputs.map ErgoBox.toErgoBoxCandidate =
      kept ++ selection.changeBoxes.map (changeBox changeTree ctx.height) ++
        [feeBox ctx.txFee ctx.height])
    (balanced : boxesValue kept + ctx.txFee.raw = targetBalance.raw) :
    boxValue tx.outputs = boxValue tx.inputs ∧
      ∀ id, tokenAmountOf id (boxTokens tx.outputs) + tokenAmountOf id targetTokens =
        boxesTokenAmount id kept + tokenAmountOf id (boxTokens tx.inputs) := by
  refine ⟨?_, fun id => ?_⟩
  · rw [boxValue, made, value_balance changeTree ctx.height ctx.txFee selected []
      (by rwa [boxValue_nil, zero_add]), List.nil_append, spent]
  · rw [← boxesTokenAmount_map_toErgoBoxCandidate, made,
      tokenAmount_balance changeTree ctx.height ctx.txFee selected kept id, spent]

/-- The outputs a step keeps before its change: a box of `erg_value_per_box` and the remainder
of `E_(left-1)` are, with the fee, worth `E_left`. -/
theorem boxesValue_kept {first : ErgoBoxCandidate} {left : Nat}
    {targetBalance remainingFunds : BoxValue} (positive : 1 ≤ left)
    (target : calcTargetBalance ctx.ergValuePerBox ctx.txFee left = .ok targetBalance)
    (remaining : calcTargetBalance ctx.ergValuePerBox ctx.txFee (left - 1) = .ok remainingFunds)
    (firstValue : first.value = ctx.ergValuePerBox) :
    boxesValue [first, remainingFundsBox ctx remainingFunds] + ctx.txFee.raw =
      targetBalance.raw := by
  have step := mul_budget_step positive (ctx.ergValuePerBox.raw + ctx.txFee.raw)
  simp only [boxesValue_cons, boxesValue_nil, firstValue, remainingFundsBox_value,
    remainingFunds_raw remaining, (calcTargetBalance_eq_ok.mp target).2.2.2.2.2]
  omega

/-- A minting transaction creates exactly the nanoERG it spends, and per token id the units it
spends and the minted amount of its own token. -/
theorem mintToken_balance {inputBoxes : List ErgoBox} {left : Nat} {tokenName tokenDesc : String}
    {tokenAmount : TokenAmount} {guard : Option ErgoTree} {token : Token} {tx : Transaction}
    {left' : Nat}
    (minted : mintToken ctx inputBoxes left tokenName tokenDesc tokenAmount guard =
      .ok (token, tx, left')) :
    boxValue tx.outputs = boxValue tx.inputs ∧
      ∀ id, tokenAmountOf id (boxTokens tx.outputs) =
        tokenAmountOf id (boxTokens tx.inputs) +
          if token.tokenId = id then token.amount.raw else 0 := by
  obtain ⟨_, _, _, _, target, remaining, positive, -, selected, -, -, inputs, outputs⟩ :=
    mintToken_ok minted
  obtain ⟨value, tokens⟩ := signed_balance selected inputs outputs
    (boxesValue_kept positive target remaining rfl)
  refine ⟨value, fun id => ?_⟩
  have balance := tokens id
  simp only [boxesTokenAmount_cons, boxesTokenAmount_nil, mintedTokenBox_tokens,
    remainingFundsBox_tokens, tokenAmountOf_cons, tokenAmountOf_nil] at balance
  omega

/-- The pool-box transaction creates exactly the nanoERG it spends, and per token id the units
it spends, less the oracle tokens' amount of the reward token. -/
theorem createPoolBox_balance {contracts : BootstrapContracts} {tokenIds : TokenIds}
    {poolNftToken oracleToken rewardToken : Token}
    {signedMintPoolNftTx signedMintRewardTokensTx tx : Transaction} {left left' : Nat}
    (created : createPoolBox ctx contracts tokenIds poolNftToken oracleToken rewardToken
      signedMintPoolNftTx signedMintRewardTokensTx left = .ok (tx, left')) :
    boxValue tx.outputs = boxValue tx.inputs ∧
      ∀ id, tokenAmountOf id (boxTokens tx.outputs) +
          (if rewardToken.tokenId = id then oracleToken.amount.raw else 0) =
        tokenAmountOf id (boxTokens tx.inputs) := by
  obtain ⟨_, _, _, _, _, _, _, -, subtracted, remaining, positive, -, target, -, selected, -,
    inputs, outputs⟩ := createPoolBox_ok created
  obtain ⟨value, tokens⟩ := signed_balance selected inputs outputs
    (boxesValue_kept positive target remaining rfl)
  refine ⟨value, fun id => ?_⟩
  have balance := tokens id
  have split := TokenAmount.checkedSub_raw subtracted
  simp only [boxesTokenAmount_cons, boxesTokenAmount_nil, makePoolBoxCandidate_tokens,
    remainingFundsBox_tokens, tokenAmountOf_cons, tokenAmountOf_nil] at balance
  split_ifs at balance ⊢ <;> omega

/-- The refresh-box transaction creates exactly the nanoERG and the tokens it spends. -/
theorem createRefreshBox_balance {contracts : BootstrapContracts} {tokenIds : TokenIds}
    {refreshNftToken : Token} {signedMintRefreshNftTx signedPoolBoxTx tx : Transaction}
    (created : createRefreshBox ctx contracts tokenIds refreshNftToken signedMintRefreshNftTx
      signedPoolBoxTx 1 = .ok tx) :
    boxValue tx.outputs = boxValue tx.inputs ∧
      ∀ id, tokenAmountOf id (boxTokens tx.outputs) = tokenAmountOf id (boxTokens tx.inputs) := by
  obtain ⟨_, _, _, _, _, -, target, -, selected, -, inputs, outputs⟩ :=
    createRefreshBox_ok created
  obtain ⟨value, tokens⟩ := signed_balance selected inputs outputs
    (by simp [(calcTargetBalance_eq_ok.mp target).2.2.2.2.2])
  refine ⟨value, fun id => ?_⟩
  have balance := tokens id
  simp only [boxesTokenAmount_cons, boxesTokenAmount_nil, makeRefreshBoxCandidate_tokens,
    tokenAmountOf_cons, tokenAmountOf_nil] at balance
  omega

/-- A minting transaction spends some of the boxes it selects from, each at most as often as
it is offered. -/
theorem mintToken_inputs {inputBoxes : List ErgoBox} {left : Nat} {tokenName tokenDesc : String}
    {tokenAmount : TokenAmount} {guard : Option ErgoTree} {token : Token} {tx : Transaction}
    {left' : Nat}
    (minted : mintToken ctx inputBoxes left tokenName tokenDesc tokenAmount guard =
      .ok (token, tx, left')) :
    tx.inputs.Subperm inputBoxes := by
  obtain ⟨_, _, _, _, -, -, -, -, selected, -, -, inputs, -⟩ := mintToken_ok minted
  exact inputs ▸ select_boxes_subperm selected

/-- The pool-box transaction spends some of the wallet's outputs of the reward mint and the pool
NFT box that `find` returns from the first transaction's outputs. -/
theorem createPoolBox_inputs {contracts : BootstrapContracts} {tokenIds : TokenIds}
    {poolNftToken oracleToken rewardToken : Token}
    {signedMintPoolNftTx signedMintRewardTokensTx tx : Transaction} {left left' : Nat}
    (created : createPoolBox ctx contracts tokenIds poolNftToken oracleToken rewardToken
      signedMintPoolNftTx signedMintRewardTokensTx left = .ok (tx, left')) :
    ∃ poolNftBox, findTokenBox poolNftToken.tokenId signedMintPoolNftTx.outputs = some poolNftBox ∧
      tx.inputs.Subperm
        (filterTxOutputs ctx.walletPkErgoTree signedMintRewardTokensTx.outputs ++ [poolNftBox]) := by
  obtain ⟨_, _, _, _, poolNftBox, _, _, -, -, -, -, -, -, found, selected, -, inputs, -⟩ :=
    createPoolBox_ok created
  exact ⟨poolNftBox, found, inputs ▸ select_boxes_subperm selected⟩

/-- The refresh-box transaction spends some of the wallet's outputs of the pool-box transaction
and the refresh NFT box that `find` returns from the second transaction's outputs. -/
theorem createRefreshBox_inputs {contracts : BootstrapContracts} {tokenIds : TokenIds}
    {refreshNftToken : Token} {signedMintRefreshNftTx signedPoolBoxTx tx : Transaction}
    {left : Nat}
    (created : createRefreshBox ctx contracts tokenIds refreshNftToken signedMintRefreshNftTx
      signedPoolBoxTx left = .ok tx) :
    ∃ refreshNftBox,
      findTokenBox refreshNftToken.tokenId signedMintRefreshNftTx.outputs = some refreshNftBox ∧
      tx.inputs.Subperm
        (filterTxOutputs ctx.walletPkErgoTree signedPoolBoxTx.outputs ++ [refreshNftBox]) := by
  obtain ⟨_, _, refreshNftBox, _, _, -, -, found, selected, -, inputs, -⟩ :=
    createRefreshBox_ok created
  exact ⟨refreshNftBox, found, inputs ▸ select_boxes_subperm selected⟩

end Steps

section Chain

variable {input : BootstrapInput} {chain : SignedChain}

/-- The six tokens the chain mints, in the order of their transactions. -/
def SignedChain.mintedTokens (chain : SignedChain) : List Token :=
  [chain.poolNftToken, chain.refreshNftToken, chain.ballotToken, chain.updateNftToken,
    chain.oracleToken, chain.rewardToken]

/-- What each transaction of the chain does to one token id: a minting transaction adds its
minted amount, the pool-box transaction loses the oracle tokens' amount of reward tokens, and
the refresh-box transaction keeps every unit. -/
structure ChainTokenFlow (chain : SignedChain) (id : TokenId) : Prop where
  mints : List.Forall₂ (fun (tx : Transaction) (token : Token) =>
      tokenAmountOf id (boxTokens tx.outputs) =
        tokenAmountOf id (boxTokens tx.inputs) +
          if token.tokenId = id then token.amount.raw else 0)
    (chain.transactions.take 6) chain.mintedTokens
  poolBox : tokenAmountOf id (boxTokens chain.signedPoolBoxTx.outputs) +
      (if chain.rewardToken.tokenId = id then chain.oracleToken.amount.raw else 0) =
    tokenAmountOf id (boxTokens chain.signedPoolBoxTx.inputs)
  refreshBox : tokenAmountOf id (boxTokens chain.signedRefreshBoxTx.outputs) =
    tokenAmountOf id (boxTokens chain.signedRefreshBoxTx.inputs)

/-- Where each transaction of the chain takes its inputs from, each box at most as often as it
is offered: the first from the wallet's unspent boxes, each later minting transaction from the
wallet's outputs of the one before, and the pool-box and refresh-box transactions from the
wallet's outputs of the one before and the NFT box `find` returns from the first or the second
transaction's outputs. -/
structure SpendsPredecessors (walletPkErgoTree : ErgoTree) (unspentBoxes : List ErgoBox)
    (chain : SignedChain) : Prop where
  first : chain.signedMintPoolNftTx.inputs.Subperm unspentBoxes
  mints : List.Chain' (fun (previous next : Transaction) =>
      next.inputs.Subperm (filterTxOutputs walletPkErgoTree previous.outputs))
    (chain.transactions.take 6)
  poolBox : ∃ poolNftBox,
    findTokenBox chain.poolNftToken.tokenId chain.signedMintPoolNftTx.outputs = some poolNftBox ∧
    chain.signedPoolBoxTx.inputs.Subperm
      (filterTxOutputs walletPkErgoTree chain.signedMintRewardTokensTx.outputs ++ [poolNftBox])
  refreshBox : ∃ refreshNftBox,
    findTokenBox chain.refreshNftToken.tokenId chain.signedMintRefreshNftTx.outputs =
      some refreshNftBox ∧
    chain.signedRefreshBoxTx.inputs.Subperm
      (filterTxOutputs walletPkErgoTree chain.signedPoolBoxTx.outputs ++ [refreshNftBox])

theorem buildSignedChain_value (built : buildSignedChain input = .ok chain) :
    ∀ tx ∈ chain.transactions, boxValue tx.outputs = boxValue tx.inputs := by
  obtain ⟨_, _, _, _, _, _, _, _, _, -, -, -, -, poolNft, refreshNft, -, ballot, -, updateNft, -,
    -, oracle, -, reward, pool, refresh⟩ := buildSignedChain_ok built
  simp only [SignedChain.transactions, List.mem_cons, List.not_mem_nil, or_false]
  rintro tx (rfl | rfl | rfl | rfl | rfl | rfl | rfl | rfl)
  exacts [(mintToken_balance poolNft).1, (mintToken_balance refreshNft).1,
    (mintToken_balance ballot).1, (mintToken_balance updateNft).1, (mintToken_balance oracle).1,
    (mintToken_balance reward).1, (createPoolBox_balance pool).1,
    (createRefreshBox_balance refresh).1]

/-- A transaction the run sends to the node belongs to the chain it built. -/
theorem performBootstrapChainedTransaction_sent {tx : Transaction}
    (sent : tx ∈ (performBootstrapChainedTransaction input).1) :
    ∃ chain, buildSignedChain input = .ok chain ∧ tx ∈ chain.transactions := by
  cases built : buildSignedChain input with
  | error fault => rw [performBootstrapChainedTransaction_of_error built] at sent; cases sent
  | ok chain =>
      obtain ⟨passed, isPrefix, -, walked, -⟩ :=
        submitTransactions_spec input.submitTx [] chain.transactions
      rw [(performBootstrapChainedTransaction_of_built built).1, walked, List.nil_append] at sent
      exact ⟨chain, rfl, isPrefix.subset sent⟩

/-- Every transaction a bootstrap run sends to the node creates exactly the nanoERG it spends,
its fee box included. -/
theorem performBootstrapChainedTransaction_value_conserved (input : BootstrapInput) :
    ∀ tx ∈ (performBootstrapChainedTransaction input).1,
      boxValue tx.outputs = boxValue tx.inputs := by
  intro tx sent
  obtain ⟨chain, built, member⟩ := performBootstrapChainedTransaction_sent sent
  exact buildSignedChain_value built tx member

theorem performBootstrapChainedTransaction_value_conserved_testBootstrap :
    (performBootstrapChainedTransaction testBootstrapInput).1 ≠ [] ∧
      ∀ tx ∈ (performBootstrapChainedTransaction testBootstrapInput).1,
        boxValue tx.outputs = boxValue tx.inputs :=
  ⟨by decide, performBootstrapChainedTransaction_value_conserved testBootstrapInput⟩

/-- Per token id, each of the six minting transactions of a built chain creates the units it
spends and the minted amount of its own token. -/
theorem buildSignedChain_mint_flows (built : buildSignedChain input = .ok chain) (id : TokenId) :
    List.Forall₂ (fun (tx : Transaction) (token : Token) =>
        tokenAmountOf id (boxTokens tx.outputs) =
          tokenAmountOf id (boxTokens tx.inputs) +
            if token.tokenId = id then token.amount.raw else 0)
      (chain.transactions.take 6) chain.mintedTokens := by
  obtain ⟨_, _, _, _, _, _, _, _, _, -, -, -, -, poolNft, refreshNft, -, ballot, -, updateNft, -,
    -, oracle, -, reward, -⟩ := buildSignedChain_ok built
  exact .cons ((mintToken_balance poolNft).2 id) <|
    .cons ((mintToken_balance refreshNft).2 id) <| .cons ((mintToken_balance ballot).2 id) <|
    .cons ((mintToken_balance updateNft).2 id) <| .cons ((mintToken_balance oracle).2 id) <|
    .cons ((mintToken_balance reward).2 id) .nil

/-- In a built chain every minting transaction adds exactly its minted amount of its own token
and keeps every other token, the pool-box transaction destroys the oracle tokens' amount of
reward tokens, and the refresh-box transaction keeps every token. -/
theorem buildSignedChain_token_flow (built : buildSignedChain input = .ok chain) (id : TokenId) :
    ChainTokenFlow chain id := by
  obtain ⟨_, _, _, _, _, _, _, _, _, -, -, -, -, -, -, -, -, -, -, -, -, -, -, -, pool, refresh⟩ :=
    buildSignedChain_ok built
  exact ⟨buildSignedChain_mint_flows built id, (createPoolBox_balance pool).2 id,
    (createRefreshBox_balance refresh).2 id⟩

theorem buildSignedChain_token_flow_testBootstrap :
    ∃ chain, buildSignedChain testBootstrapInput = .ok chain ∧
      ∀ id, ChainTokenFlow chain id :=
  ⟨_, rfl, @buildSignedChain_token_flow testBootstrapInput _ rfl⟩

/-- Where a built chain's inputs come from, for the wallet's key and unspent boxes the run
read. -/
theorem spendsPredecessors_of_built (built : buildSignedChain input = .ok chain)
    {walletPkErgoTree : ErgoTree} {unspentBoxes : List ErgoBox}
    (script : input.config.addresses.walletAddressForChainTransaction.script =
      .ok walletPkErgoTree)
    (unspent : input.wallet = .ok unspentBoxes) :
    SpendsPredecessors walletPkErgoTree unspentBoxes chain := by
  obtain ⟨_, _, _, _, _, _, _, _, _, script', unspent', -, selected, poolNft, refreshNft, -,
    ballot, -, updateNft, -, -, oracle, -, reward, pool, refresh⟩ := buildSignedChain_ok built
  obtain rfl := Except.ok.inj (script.symm.trans script')
  obtain rfl := Except.ok.inj (unspent.symm.trans unspent')
  refine ⟨(mintToken_inputs poolNft).trans (select_boxes_subperm selected), ?_,
    createPoolBox_inputs pool, createRefreshBox_inputs refresh⟩
  exact List.Chain.cons (mintToken_inputs refreshNft) <| .cons (mintToken_inputs ballot) <|
    .cons (mintToken_inputs updateNft) <| .cons (mintToken_inputs oracle) <|
    .cons (mintToken_inputs reward) .nil

/-- A built chain spends only the wallet's unspent boxes, the wallet's outputs of the
transaction before, and the two NFT boxes the pool-box and refresh-box steps look up. -/
theorem buildSignedChain_spends_predecessors (built : buildSignedChain input = .ok chain) :
    ∃ walletPkErgoTree unspentBoxes,
      input.config.addresses.walletAddressForChainTransaction.script = .ok walletPkErgoTree ∧
      input.wallet = .ok unspentBoxes ∧
      SpendsPredecessors walletPkErgoTree unspentBoxes chain := by
  obtain ⟨walletPkErgoTree, unspentBoxes, _, _, _, _, _, _, _, script, unspent, -⟩ :=
    buildSignedChain_ok built
  exact ⟨walletPkErgoTree, unspentBoxes, script, unspent,
    spendsPredecessors_of_built built script unspent⟩

theorem buildSignedChain_spends_predecessors_testBootstrap :
    ∃ chain, buildSignedChain testBootstrapInput = .ok chain ∧
      ∃ walletPkErgoTree unspentBoxes,
        testBootstrapInput.config.addresses.walletAddressForChainTransaction.script =
          .ok walletPkErgoTree ∧
        testBootstrapInput.wallet = .ok unspentBoxes ∧
        SpendsPredecessors walletPkErgoTree unspentBoxes chain :=
  ⟨_, rfl, buildSignedChain_spends_predecessors rfl⟩

end Chain

end OracleCore
