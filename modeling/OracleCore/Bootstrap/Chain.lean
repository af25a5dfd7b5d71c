import OracleCore.Chain.Transaction

/-!
# The bootstrap chain-transaction

`perform_bootstrap_chained_transaction` mints the six pool tokens and creates
the pool and refresh boxes in eight transactions, each funded from the outputs
of the one before.  With `i` transactions left, a step selects boxes worth
`E_i = i * (erg_value_per_box + tx_fee)` and leaves a remainder worth
`E_(i-1)` under the wallet's key; `filter_tx_outputs` passes the boxes under
that key on to the next step.  All eight transactions are built and signed
first and submitted in order afterwards.

The contracts module is not among the sources: each contract constructor,
applied to the configuration's parameters for it, is a parameter of the model,
and the pool and refresh box candidates are modelled from the spec.  The signer
answers with the id of the signed transaction or a node error; the submitter
sees the transactions submitted before.
-/

namespace OracleCore

/-- Failures of the contract constructors. -/
structure ContractError where
  reason : String
  deriving DecidableEq, Repr

/-- The errors `perform_bootstrap_chained_transaction` returns. -/
inductive BootstrapError where
  | txBuilder (error : TxBuilderError)
  | node (error : NodeError)
  | boxSelector (error : BoxSelectorError)
  | boxValue (error : BoxValueError)
  | sigmaParse (error : SigmaParsingError)
  | refreshContract (error : ContractError)
  | updateContract (error : ContractError)
  deriving DecidableEq, Repr

abbrev Bootstrap := Except (Fault BootstrapError)

structure TokenMintDetails where
  name : String
  description : String
  quantity : Nat

structure NftMintDetails where
  name : String
  description : String

structure TokensToMint where
  poolNft : NftMintDetails
  refreshNft : NftMintDetails
  updateNft : NftMintDetails
  oracleTokens : TokenMintDetails
  ballotTokens : TokenMintDetails
  rewardTokens : TokenMintDetails

structure Addresses where
  addressForOracleTokens : Address
  walletAddressForChainTransaction : Address

structure TokenIds where
  poolNftTokenId : TokenId
  refreshNftTokenId : TokenId
  updateNftTokenId : TokenId
  oracleTokenId : TokenId
  rewardTokenId : TokenId
  ballotTokenId : TokenId

/-- The id `TokenId::from_base64` decodes for the token ids not minted yet when the update
contract is built. -/
def dummyTokenId : TokenId := ⟨0⟩

/-- `UpdateContract::new`, `PoolContract::new` and `RefreshContract::new` on the
configuration's parameters: the guard script of each contract. -/
structure BootstrapContracts where
  updateContract : TokenIds → Except ContractError ErgoTree
  poolContract : TokenIds → Except ContractError ErgoTree
  refreshContract : TokenIds → Except ContractError ErgoTree

structure BootstrapConfig where
  contracts : BootstrapContracts
  tokensToMint : TokensToMint
  nodeIp : String
  nodePort : String
  nodeApiKey : String
  addresses : Addresses

structure BootstrapInput where
  config : BootstrapConfig
  wallet : Except NodeError (List ErgoBox)
  txSigner : UnsignedTransaction → List ErgoBox → Except NodeError TxId
  submitTx : List Transaction → Transaction → Except NodeError String
  txFee : BoxValue
  ergValuePerBox : BoxValue
  changeAddress : Address
  height : Nat

structure OracleConfigFields where
  poolNft : TokenId
  refreshNft : TokenId
  updateNft : TokenId
  oracleToken : TokenId
  ballotToken : TokenId
  rewardToken : TokenId
  nodeIp : String
  nodePort : String
  nodeApiKey : String

/-- What the closures of `perform_bootstrap_chained_transaction` capture. -/
structure ChainContext where
  ergValuePerBox : BoxValue
  txFee : BoxValue
  walletPkErgoTree : ErgoTree
  height : Nat
  changeAddress : Address
  txSigner : UnsignedTransaction → List ErgoBox → Except NodeError TxId

/-- The context of the closures once the wallet's key is known. -/
def BootstrapInput.chainContext (input : BootstrapInput) (walletPkErgoTree : ErgoTree) :
    ChainContext :=
  ⟨input.ergValuePerBox, input.txFee, walletPkErgoTree, input.height, input.changeAddress,
    input.txSigner⟩

@[simp] theorem BootstrapInput.chainContext_ergValuePerBox (input : BootstrapInput)
    (walletPkErgoTree : ErgoTree) :
    (input.chainContext walletPkErgoTree).ergValuePerBox = input.ergValuePerBox := rfl

@[simp] theorem BootstrapInput.chainContext_txFee (input : BootstrapInput)
    (walletPkErgoTree : ErgoTree) : (input.chainContext walletPkErgoTree).txFee = input.txFee :=
  rfl

@[simp] theorem BootstrapInput.chainContext_walletPkErgoTree (input : BootstrapInput)
    (walletPkErgoTree : ErgoTree) :
    (input.chainContext walletPkErgoTree).walletPkErgoTree = walletPkErgoTree := rfl

/-- The closure `calc_target_balance`, that is `E_i`. -/
def calcTargetBalance (ergValuePerBox txFee : BoxValue) (numTransactionsLeft : Nat) :
    Except BoxValueError BoxValue := do
  let b ← ergValuePerBox.checkedMulU32 numTransactionsLeft
  let fees ← txFee.checkedMulU32 numTransactionsLeft
  b.checkedAdd fees

/-- The closure `filter_tx_outputs`: the outputs under the wallet's key. -/
def filterTxOutputs (guard : ErgoTree) (outputs : List ErgoBox) : List ErgoBox :=
  outputs.filter fun b => b.ergoTree = guard

/-- The first output holding a token of this id, as `find` returns it. -/
def findTokenBox (tokenId : TokenId) (outputs : List ErgoBox) : Option ErgoBox :=
  outputs.find? fun b => b.tokens.any fun t => t.tokenId = tokenId

/-- `TxBuilder::new(box_selection, output_candidates, height, tx_fee, change_address,
BoxValue::MIN).build()?`, then `sign_transaction_with_inputs` with the selected boxes. -/
def buildAndSign (ctx : ChainContext) (boxSelection : BoxSelection)
    (outputCandidates : List ErgoBoxCandidate) : Bootstrap Transaction := do
  let inputs := boxSelection.boxes
  let tx ← lift .txBuilder (TxBuilder.build
    ⟨boxSelection, outputCandidates, ctx.height, ctx.txFee, ctx.changeAddress⟩)
  let id ← lift .node (ctx.txSigner tx inputs)
  pure (Transaction.new id tx)

/-- The box of value `E_(i-1)` under the wallet's key that a step leaves for the next. -/
def remainingFundsBox (ctx : ChainContext) (value : BoxValue) : ErgoBoxCandidate :=
  (ErgoBoxCandidateBuilder.new value ctx.walletPkErgoTree ctx.height).build

/-- The token box `mint_token` builds: by default under the wallet's key, or under
`different_token_box_guard`. -/
def mintedTokenBox (ctx : ChainContext) (token : Token) (tokenName tokenDesc : String)
    (differentTokenBoxGuard : Option ErgoTree) : ErgoBoxCandidate :=
  let tokenBoxGuard := differentTokenBoxGuard.getD ctx.walletPkErgoTree
  ((ErgoBoxCandidateBuilder.new ctx.ergValuePerBox tokenBoxGuard ctx.height).mintToken token
    tokenName tokenDesc 1).build

/-- The closure `mint_token`: the minted token, the signed transaction and the decremented
count of transactions left. -/
def mintToken (ctx : ChainContext) (inputBoxes : List ErgoBox) (numTransactionsLeft : Nat)
    (tokenName tokenDesc : String) (tokenAmount : TokenAmount)
    (differentTokenBoxGuard : Option ErgoTree) : Bootstrap (Token × Transaction × Nat) := do
  let targetBalance ←
    lift .boxValue (calcTargetBalance ctx.ergValuePerBox ctx.txFee numTransactionsLeft)
  let boxSelection ← lift .boxSelector (SimpleBoxSelector.select inputBoxes targetBalance [])
  let token : Token := ⟨TokenId.ofBoxId boxSelection.first.boxId, tokenAmount⟩
  let tokenBox := mintedTokenBox ctx token tokenName tokenDesc differentTokenBoxGuard
  let remainingFunds ← lift .boxValue (calcTargetBalance ctx.ergValuePerBox ctx.txFee
    (← checkedSub numTransactionsLeft 1))
  let signedTx ← buildAndSign ctx boxSelection [tokenBox, remainingFundsBox ctx remainingFunds]
  pure (token, signedTx, ← checkedSub numTransactionsLeft 1)

/-- Modelled from the spec: `make_pool_box_candidate` is not among the sources; the spec's
pool box holds the pool NFT and the reward tokens, with the rate and the epoch counter in R4
and R5. -/
def makePoolBoxCandidate (poolContract : ErgoTree) (datapoint : Int) (epochCounter : Int)
    (poolNftToken rewardToken : Token) (value : BoxValue) (creationHeight : Nat) :
    ErgoBoxCandidate :=
  ⟨value, poolContract, [poolNftToken, rewardToken], [.long datapoint, .int epochCounter],
    creationHeight⟩

@[simp] theorem makePoolBoxCandidate_value (poolContract : ErgoTree) (datapoint epochCounter : Int)
    (poolNftToken rewardToken : Token) (value : BoxValue) (creationHeight : Nat) :
    (makePoolBoxCandidate poolContract datapoint epochCounter poolNftToken rewardToken value
      creationHeight).value = value := rfl

@[simp] theorem makePoolBoxCandidate_tokens (poolContract : ErgoTree)
    (datapoint epochCounter : Int) (poolNftToken rewardToken : Token) (value : BoxValue)
    (creationHeight : Nat) :
    (makePoolBoxCandidate poolContract datapoint epochCounter poolNftToken rewardToken value
      creationHeight).tokens = [poolNftToken, rewardToken] := rfl

/-- Modelled from the spec: `make_refresh_box_candidate` is not among the sources; the spec's
refresh box holds the refresh NFT under the refresh contract. -/
def makeRefreshBoxCandidate (refreshContract : ErgoTree) (refreshNftToken : Token)
    (value : BoxValue) (creationHeight : Nat) : ErgoBoxCandidate :=
  ⟨value, refreshContract, [refreshNftToken], [], creationHeight⟩

@[simp] theorem makeRefreshBoxCandidate_value (refreshContract : ErgoTree) (refreshNftToken : Token)
    (value : BoxValue) (creationHeight : Nat) :
    (makeRefreshBoxCandidate refreshContract refreshNftToken value creationHeight).value =
      value := rfl

@[simp] theorem makeRefreshBoxCandidate_tokens (refreshContract : ErgoTree)
    (refreshNftToken : Token) (value : BoxValue) (creationHeight : Nat) :
    (makeRefreshBoxCandidate refreshContract refreshNftToken value creationHeight).tokens =
      [refreshNftToken] := rfl

/-- The eight signed transactions and the six minted tokens. -/
structure SignedChain where
  poolNftToken : Token
  refreshNftToken : Token
  ballotToken : Token
  updateNftToken : Token
  oracleToken : Token
  rewardToken : Token
  signedMintPoolNftTx : Transaction
  signedMintRefreshNftTx : Transaction
  signedMintBallotTokensTx : Transaction
  signedMintUpdateNftTx : Transaction
  signedMintOracleTokensTx : Transaction
  signedMintRewardTokensTx : Transaction
  signedPoolBoxTx : Transaction
  signedRefreshBoxTx : Transaction

/-- The transactions in the order they are submitted. -/
def SignedChain.transactions (chain : SignedChain) : List Transaction :=
  [chain.signedMintPoolNftTx, chain.signedMintRefreshNftTx, chain.signedMintBallotTokensTx,
    chain.signedMintUpdateNftTx, chain.signedMintOracleTokensTx,
    chain.signedMintRewardTokensTx, chain.signedPoolBoxTx, chain.signedRefreshBoxTx]

/-- The "Create pool box" part: the pool NFT box of the first transaction and the reward
tokens go to the new pool box. -/
def createPoolBox (ctx : ChainContext) (contracts : BootstrapContracts) (tokenIds : TokenIds)
    (poolNftToken oracleToken rewardToken : Token)
    (signedMintPoolNftTx signedMintRewardTokensTx : Transaction) (numTransactionsLeft : Nat) :
    Bootstrap (Transaction × Nat) := do
  let poolContract ← unwrap (contracts.poolContract tokenIds)
  let rewardTokensForPoolBox : Token :=
    ⟨rewardToken.tokenId, ← unwrap (rewardToken.amount.checkedSub oracleToken.amount)⟩
  let poolBoxCandidate := makePoolBoxCandidate poolContract 0 1 poolNftToken
    rewardTokensForPoolBox ctx.ergValuePerBox ctx.height
  let remainingFunds ← lift .boxValue (calcTargetBalance ctx.ergValuePerBox ctx.txFee
    (← checkedSub numTransactionsLeft 1))
  let targetBalance ←
    lift .boxValue (calcTargetBalance ctx.ergValuePerBox ctx.txFee numTransactionsLeft)
  let boxWithPoolNft ←
    unwrapSome (findTokenBox poolNftToken.tokenId signedMintPoolNftTx.outputs)
  let inputs := filterTxOutputs ctx.walletPkErgoTree signedMintRewardTokensTx.outputs ++
    [boxWithPoolNft]
  let boxSelection ← lift .boxSelector
    (SimpleBoxSelector.select inputs targetBalance [poolNftToken, rewardToken])
  let signedPoolBoxTx ←
    buildAndSign ctx boxSelection [poolBoxCandidate, remainingFundsBox ctx remainingFunds]
  pure (signedPoolBoxTx, ← checkedSub numTransactionsLeft 1)

/-- The "Create refresh box" part: the refresh NFT box of the second transaction goes to the
new refresh box. -/
def createRefreshBox (ctx : ChainContext) (contracts : BootstrapContracts) (tokenIds : TokenIds)
    (refreshNftToken : Token) (signedMintRefreshNftTx signedPoolBoxTx : Transaction)
    (numTransactionsLeft : Nat) : Bootstrap Transaction := do
  let refreshContract ← lift .refreshContract (contracts.refreshContract tokenIds)
  let refreshBoxCandidate :=
    makeRefreshBoxCandidate refreshContract refreshNftToken ctx.ergValuePerBox ctx.height
  let targetBalance ←
    lift .boxValue (calcTargetBalance ctx.ergValuePerBox ctx.txFee numTransactionsLeft)
  let boxWithRefreshNft ←
    unwrapSome (findTokenBox refreshNftToken.tokenId signedMintRefreshNftTx.outputs)
  let inputs := filterTxOutputs ctx.walletPkErgoTree signedPoolBoxTx.outputs ++
    [boxWithRefreshNft]
  let boxSelection ← lift .boxSelector
    (SimpleBoxSelector.select inputs targetBalance [refreshNftToken])
  buildAndSign ctx boxSelection [refreshBoxCandidate]

/-- Everything `perform_bootstrap_chained_transaction` does before its first submission. -/
def buildSignedChain (input : BootstrapInput) : Bootstrap SignedChain := do
  let config := input.config
  let tokensToMint := config.tokensToMint
  let walletPkErgoTree ← lift .sigmaParse config.addresses.walletAddressForChainTransaction.script
  let ctx := input.chainContext walletPkErgoTree
  let unspentBoxes ← lift .node input.wallet
  let targetBalance ← lift .boxValue (calcTargetBalance input.ergValuePerBox input.txFee 8)
  let boxSelection ← lift .boxSelector (SimpleBoxSelector.select unspentBoxes targetBalance [])
  let (poolNftToken, signedMintPoolNftTx, left) ← mintToken ctx boxSelection.boxes 8
    tokensToMint.poolNft.name tokensToMint.poolNft.description TokenAmount.one none
  let (refreshNftToken, signedMintRefreshNftTx, left) ← mintToken ctx
    (filterTxOutputs walletPkErgoTree signedMintPoolNftTx.outputs) left
    tokensToMint.refreshNft.name tokensToMint.refreshNft.description TokenAmount.one none
  let (ballotToken, signedMintBallotTokensTx, left) ← mintToken ctx
    (filterTxOutputs walletPkErgoTree signedMintRefreshNftTx.outputs) left
    tokensToMint.ballotTokens.name tokensToMint.ballotTokens.description
    (← unwrap (TokenAmount.new tokensToMint.ballotTokens.quantity)) none
  let updateContract ← lift .updateContract (config.contracts.updateContract
    ⟨poolNftToken.tokenId, refreshNftToken.tokenId, dummyTokenId, dummyTokenId, dummyTokenId,
      ballotToken.tokenId⟩)
  let (updateNftToken, signedMintUpdateNftTx, left) ← mintToken ctx
    (filterTxOutputs walletPkErgoTree signedMintBallotTokensTx.outputs) left
    tokensToMint.updateNft.name tokensToMint.updateNft.description TokenAmount.one
    (some updateContract)
  let oracleTokensPkErgoTree ← lift .sigmaParse config.addresses.addressForOracleTokens.script
  let (oracleToken, signedMintOracleTokensTx, left) ← mintToken ctx
    (filterTxOutputs walletPkErgoTree signedMintUpdateNftTx.outputs) left
    tokensToMint.oracleTokens.name tokensToMint.oracleTokens.description
    (← unwrap (TokenAmount.new tokensToMint.oracleTokens.quantity)) (some oracleTokensPkErgoTree)
  let (rewardToken, signedMintRewardTokensTx, left) ← mintToken ctx
    (filterTxOutputs walletPkErgoTree signedMintOracleTokensTx.outputs) left
    tokensToMint.rewardTokens.name tokensToMint.rewardTokens.description
    (← unwrap (TokenAmount.new tokensToMint.rewardTokens.quantity)) none
  let tokenIds : TokenIds := ⟨poolNftToken.tokenId, refreshNftToken.tokenId,
    updateNftToken.tokenId, oracleToken.tokenId, rewardToken.tokenId, ballotToken.tokenId⟩
  let (signedPoolBoxTx, left) ← createPoolBox ctx config.contracts tokenIds poolNftToken
    oracleToken rewardToken signedMintPoolNftTx signedMintRewardTokensTx left
  let signedRefreshBoxTx ← createRefreshBox ctx config.contracts tokenIds refreshNftToken
    signedMintRefreshNftTx signedPoolBoxTx left
  pure ⟨poolNftToken, refreshNftToken, ballotToken, updateNftToken, oracleToken, rewardToken,
    signedMintPoolNftTx, signedMintRefreshNftTx, signedMintBallotTokensTx, signedMintUpdateNftTx,
    signedMintOracleTokensTx, signedMintRewardTokensTx, signedPoolBoxTx, signedRefreshBoxTx⟩

/-- `submit_transaction(&tx)?` on each transaction in turn: the transactions passed to the
submitter, the last of them the one it refused, and whether it accepted them all. -/
def submitTransactions (submitTx : List Transaction → Transaction → Except NodeError String) :
    List Transaction → List Transaction → List Transaction × Except NodeError Unit
  | submitted, [] => (submitted, .ok ())
  | submitted, tx :: rest =>
    match submitTx submitted tx with
    | .error e => (submitted ++ [tx], .error e)
    | .ok _ => submitTransactions submitTx (submitted ++ [tx]) rest

/-- `perform_bootstrap_chained_transaction`: the transactions passed to `submit_transaction`,
in order, and the result. -/
def performBootstrapChainedTransaction (input : BootstrapInput) :
    List Transaction × Bootstrap OracleConfigFields :=
  match buildSignedChain input with
  | .error fault => ([], .error fault)
  | .ok chain =>
    match submitTransactions input.submitTx [] chain.transactions with
    | (passed, .error e) => (passed, .error (.error (.node e)))
    | (passed, .ok ()) =>
      (passed, .ok ⟨chain.poolNftToken.tokenId, chain.refreshNftToken.tokenId,
        chain.updateNftToken.tokenId, chain.oracleToken.tokenId, chain.ballotToken.tokenId,
        chain.rewardToken.tokenId, input.config.nodeIp, input.config.nodePort,
        input.config.nodeApiKey⟩)

@[simp] theorem mintedTokenBox_tokens (ctx : ChainContext) (token : Token)
    (tokenName tokenDesc : String) (guard : Option ErgoTree) :
    (mintedTokenBox ctx token tokenName tokenDesc guard).tokens = [token] := rfl

@[simp] theorem mintedTokenBox_ergoTree (ctx : ChainContext) (token : Token)
    (tokenName tokenDesc : String) (guard : Option ErgoTree) :
    (mintedTokenBox ctx token tokenName tokenDesc guard).ergoTree =
      guard.getD ctx.walletPkErgoTree := rfl

@[simp] theorem mintedTokenBox_value (ctx : ChainContext) (token : Token)
    (tokenName tokenDesc : String) (guard : Option ErgoTree) :
    (mintedTokenBox ctx token tokenName tokenDesc guard).value = ctx.ergValuePerBox := rfl

@[simp] theorem remainingFundsBox_value (ctx : ChainContext) (value : BoxValue) :
    (remainingFundsBox ctx value).value = value := rfl

@[simp] theorem remainingFundsBox_tokens (ctx : ChainContext) (value : BoxValue) :
    (remainingFundsBox ctx value).tokens = [] := rfl

theorem ErgoBox.eq_mintedTokenBox {box : ErgoBox} {ctx : ChainContext} {token : Token}
    {tokenName tokenDesc : String} {guard : Option ErgoTree}
    (same : box.toErgoBoxCandidate = mintedTokenBox ctx token tokenName tokenDesc guard) :
    box.tokens = [token] ∧ box.ergoTree = guard.getD ctx.walletPkErgoTree :=
  ⟨(congrArg ErgoBoxCandidate.tokens same).trans rfl,
    (congrArg ErgoBoxCandidate.ergoTree same).trans rfl⟩

/-- `find` stops at the first output when that output holds the token. -/
theorem findTokenBox_of_head {outputs : List ErgoBox} {box : ErgoBox} {token : Token}
    (first : outputs.head? = some box) (holds : box.tokens = [token]) :
    findTokenBox token.tokenId outputs = some box := by
  cases outputs with
  | nil => cases first
  | cons head rest =>
      cases first
      simp [findTokenBox, holds]

theorem head_mem_filterTxOutputs {outputs : List ErgoBox} {box : ErgoBox} {guard : ErgoTree}
    (first : outputs.head? = some box) (guarded : box.ergoTree = guard) :
    box ∈ filterTxOutputs guard outputs :=
  List.mem_filter.mpr ⟨List.mem_of_mem_head? first, by simp [guarded]⟩

theorem calcTargetBalance_eq_ok {ergValuePerBox txFee result : BoxValue} {left : Nat} :
    calcTargetBalance ergValuePerBox txFee left = .ok result ↔
      BoxValue.MIN_RAW ≤ ergValuePerBox.raw * left ∧ ergValuePerBox.raw * left ≤ BoxValue.MAX_RAW ∧
      BoxValue.MIN_RAW ≤ txFee.raw * left ∧ txFee.raw * left ≤ BoxValue.MAX_RAW ∧
      ergValuePerBox.raw * left + txFee.raw * left ≤ BoxValue.MAX_RAW ∧
      result.raw = left * (ergValuePerBox.raw + txFee.raw) := by
  simp only [calcTargetBalance, bind_eq_ok, BoxValue.checkedMulU32_eq_ok,
    BoxValue.checkedAdd_eq_ok]
  constructor
  · rintro ⟨b, ⟨bLow, bHigh, bRaw⟩, fees, ⟨feesLow, feesHigh, feesRaw⟩, sumHigh, sumRaw⟩
    rw [bRaw, feesRaw] at sumHigh sumRaw
    exact ⟨bLow, bHigh, feesLow, feesHigh, sumHigh, by rw [sumRaw]; ring⟩
  · rintro ⟨bLow, bHigh, feesLow, feesHigh, sumHigh, sumRaw⟩
    exact ⟨⟨_, bLow, bHigh⟩, ⟨bLow, bHigh, rfl⟩, ⟨_, feesLow, feesHigh⟩, ⟨feesLow, feesHigh, rfl⟩,
      sumHigh, by rw [sumRaw]; ring⟩

theorem buildAndSign_ok {ctx : ChainContext} {boxSelection : BoxSelection}
    {outputCandidates : List ErgoBoxCandidate} {tx : Transaction}
    (signed : buildAndSign ctx boxSelection outputCandidates = .ok tx) :
    ∃ changeTree, ctx.changeAddress.script = .ok changeTree ∧ tx.inputs = boxSelection.boxes ∧
      tx.outputs.map ErgoBox.toErgoBoxCandidate = outputCandidates ++
        boxSelection.changeBoxes.map (changeBox changeTree ctx.height) ++
        [feeBox ctx.txFee ctx.height] := by
  obtain ⟨unsigned, built, signed⟩ := bind_eq_ok.mp signed
  obtain ⟨id, -, signed⟩ := bind_eq_ok.mp signed
  cases signed
  obtain ⟨changeTree, script, inputs, outputs, -⟩ := TxBuilder.build_ok (lift_eq_ok.mp built)
  exact ⟨changeTree, script, inputs, by rw [Transaction.new_outputs_candidates, outputs]; rfl⟩

/-- What a minting step is: a selection worth `E_left` from its inputs, the token named after
the first selected box, and a transaction with the token box and the remainder worth
`E_(left-1)` before its change and fee. -/
theorem mintToken_ok {ctx : ChainContext} {inputBoxes : List ErgoBox} {left : Nat}
    {tokenName tokenDesc : String} {tokenAmount : TokenAmount} {guard : Option ErgoTree}
    {token : Token} {tx : Transaction} {left' : Nat}
    (minted : mintToken ctx inputBoxes left tokenName tokenDesc tokenAmount guard =
      .ok (token, tx, left')) :
    ∃ targetBalance remainingFunds boxSelection changeTree,
      calcTargetBalance ctx.ergValuePerBox ctx.txFee left = .ok targetBalance ∧
      calcTargetBalance ctx.ergValuePerBox ctx.txFee (left - 1) = .ok remainingFunds ∧
      1 ≤ left ∧ left' = left - 1 ∧
      SimpleBoxSelector.select inputBoxes targetBalance [] = .ok boxSelection ∧
      token = ⟨TokenId.ofBoxId boxSelection.first.boxId, tokenAmount⟩ ∧
      ctx.changeAddress.script = .ok changeTree ∧ tx.inputs = boxSelection.boxes ∧
      tx.outputs.map ErgoBox.toErgoBoxCandidate =
        [mintedTokenBox ctx token tokenName tokenDesc guard,
          remainingFundsBox ctx remainingFunds] ++
        boxSelection.changeBoxes.map (changeBox changeTree ctx.height) ++
        [feeBox ctx.txFee ctx.height] := by
  obtain ⟨targetBalance, target, minted⟩ := bind_eq_ok.mp minted
  obtain ⟨boxSelection, selected, minted⟩ := bind_eq_ok.mp minted
  obtain ⟨previous, subtracted, minted⟩ := bind_eq_ok.mp minted
  obtain ⟨remainingFunds, remaining, minted⟩ := bind_eq_ok.mp minted
  obtain ⟨signedTx, signed, minted⟩ := bind_eq_ok.mp minted
  obtain ⟨previous', subtracted', minted⟩ := bind_eq_ok.mp minted
  cases minted
  obtain ⟨atLeastOne, rfl⟩ := checkedSub_eq_ok.mp subtracted
  obtain ⟨-, rfl⟩ := checkedSub_eq_ok.mp subtracted'
  obtain ⟨changeTree, script, inputs, outputs⟩ := buildAndSign_ok signed
  exact ⟨targetBalance, remainingFunds, boxSelection, changeTree, lift_eq_ok.mp target,
    lift_eq_ok.mp remaining, atLeastOne, rfl, lift_eq_ok.mp selected, rfl, script, inputs, outputs⟩

theorem mintToken_left {ctx : ChainContext} {inputBoxes : List ErgoBox} {left : Nat}
    {tokenName tokenDesc : String} {tokenAmount : TokenAmount} {guard : Option ErgoTree}
    {token : Token} {tx : Transaction} {left' : Nat}
    (minted : mintToken ctx inputBoxes left tokenName tokenDesc tokenAmount guard =
      .ok (token, tx, left')) : left' = left - 1 := by
  obtain ⟨-, -, -, -, -, -, -, rfl, -⟩ := mintToken_ok minted
  rfl

theorem createPoolBox_ok {ctx : ChainContext} {contracts : BootstrapContracts}
    {tokenIds : TokenIds} {poolNftToken oracleToken rewardToken : Token}
    {signedMintPoolNftTx signedMintRewardTokensTx tx : Transaction} {left left' : Nat}
    (created : createPoolBox ctx contracts tokenIds poolNftToken oracleToken rewardToken
      signedMintPoolNftTx signedMintRewardTokensTx left = .ok (tx, left')) :
    ∃ poolContract rewardAmount remainingFunds targetBalance boxWithPoolNft boxSelection
        changeTree,
      contracts.poolContract tokenIds = .ok poolContract ∧
      rewardToken.amount.checkedSub oracleToken.amount = .ok rewardAmount ∧
      calcTargetBalance ctx.ergValuePerBox ctx.txFee (left - 1) = .ok remainingFunds ∧
      1 ≤ left ∧ left' = left - 1 ∧
      calcTargetBalance ctx.ergValuePerBox ctx.txFee left = .ok targetBalance ∧
      findTokenBox poolNftToken.tokenId signedMintPoolNftTx.outputs = some boxWithPoolNft ∧
      SimpleBoxSelector.select (filterTxOutputs ctx.walletPkErgoTree
          signedMintRewardTokensTx.outputs ++ [boxWithPoolNft]) targetBalance
        [poolNftToken, rewardToken] = .ok boxSelection ∧
      ctx.changeAddress.script = .ok changeTree ∧ tx.inputs = boxSelection.boxes ∧
      tx.outputs.map ErgoBox.toErgoBoxCandidate =
        [makePoolBoxCandidate poolContract 0 1 poolNftToken ⟨rewardToken.tokenId, rewardAmount⟩
          ctx.ergValuePerBox ctx.height, remainingFundsBox ctx remainingFunds] ++
        boxSelection.changeBoxes.map (changeBox changeTree ctx.height) ++
        [feeBox ctx.txFee ctx.height] := by
  obtain ⟨poolContract, contract, created⟩ := bind_eq_ok.mp created
  obtain ⟨rewardAmount, subtracted, created⟩ := bind_eq_ok.mp created
  obtain ⟨previous, decremented, created⟩ := bind_eq_ok.mp created
  obtain ⟨remainingFunds, remaining, created⟩ := bind_eq_ok.mp created
  obtain ⟨targetBalance, target, created⟩ := bind_eq_ok.mp created
  obtain ⟨boxWithPoolNft, found, created⟩ := bind_eq_ok.mp created
  obtain ⟨boxSelection, selected, created⟩ := bind_eq_ok.mp created
  obtain ⟨signedTx, signed, created⟩ := bind_eq_ok.mp created
  obtain ⟨previous', decremented', created⟩ := bind_eq_ok.mp created
  cases created
  obtain ⟨atLeastOne, rfl⟩ := checkedSub_eq_ok.mp decremented
  obtain ⟨-, rfl⟩ := checkedSub_eq_ok.mp decremented'
  obtain ⟨changeTree, script, inputs, outputs⟩ := buildAndSign_ok signed
  exact ⟨poolContract, rewardAmount, remainingFunds, targetBalance, boxWithPoolNft, boxSelection,
    changeTree, unwrap_eq_ok.mp contract, unwrap_eq_ok.mp subtracted, lift_eq_ok.mp remaining,
    atLeastOne, rfl, lift_eq_ok.mp target, unwrapSome_eq_ok.mp found, lift_eq_ok.mp selected, script, inputs, outputs⟩

theorem createRefreshBox_ok {ctx : ChainContext} {contracts : BootstrapContracts}
    {tokenIds : TokenIds} {refreshNftToken : Token}
    {signedMintRefreshNftTx signedPoolBoxTx tx : Transaction} {left : Nat}
    (created : createRefreshBox ctx contracts tokenIds refreshNftToken signedMintRefreshNftTx
      signedPoolBoxTx left = .ok tx) :
    ∃ refreshContract targetBalance boxWithRefreshNft boxSelection changeTree,
      contracts.refreshContract tokenIds = .ok refreshContract ∧
      calcTargetBalance ctx.ergValuePerBox ctx.txFee left = .ok targetBalance ∧
      findTokenBox refreshNftToken.tokenId signedMintRefreshNftTx.outputs =
        some boxWithRefreshNft ∧
      SimpleBoxSelector.select (filterTxOutputs ctx.walletPkErgoTree signedPoolBoxTx.outputs ++
        [boxWithRefreshNft]) targetBalance [refreshNftToken] = .ok boxSelection ∧
      ctx.changeAddress.script = .ok changeTree ∧ tx.inputs = boxSelection.boxes ∧
      tx.outputs.map ErgoBox.toErgoBoxCandidate =
        [makeRefreshBoxCandidate refreshContract refreshNftToken ctx.ergValuePerBox ctx.height] ++
        boxSelection.changeBoxes.map (changeBox changeTree ctx.height) ++
        [feeBox ctx.txFee ctx.height] := by
  obtain ⟨refreshContract, contract, created⟩ := bind_eq_ok.mp created
  obtain ⟨targetBalance, target, created⟩ := bind_eq_ok.mp created
  obtain ⟨boxWithRefreshNft, found, created⟩ := bind_eq_ok.mp created
  obtain ⟨boxSelection, selected, signed⟩ := bind_eq_ok.mp created
  obtain ⟨changeTree, script, inputs, outputs⟩ := buildAndSign_ok signed
  exact ⟨refreshContract, targetBalance, boxWithRefreshNft, boxSelection, changeTree,
    lift_eq_ok.mp contract, lift_eq_ok.mp target, unwrapSome_eq_ok.mp found, lift_eq_ok.mp selected, script, inputs,
    outputs⟩

/-- What a built chain is: the wallet's key and funds, the sweep for `E_8`, and each step's
call with the transactions before it, with eight to one transactions left. -/
theorem buildSignedChain_ok {input : BootstrapInput} {chain : SignedChain}
    (built : buildSignedChain input = .ok chain) :
    ∃ walletPkErgoTree unspentBoxes targetBalance boxSelection ballotAmount updateContract
        oracleTokensPkErgoTree oracleAmount rewardAmount,
      input.config.addresses.walletAddressForChainTransaction.script = .ok walletPkErgoTree ∧
      input.wallet = .ok unspentBoxes ∧
      calcTargetBalance input.ergValuePerBox input.txFee 8 = .ok targetBalance ∧
      SimpleBoxSelector.select unspentBoxes targetBalance [] = .ok boxSelection ∧
      mintToken (input.chainContext walletPkErgoTree) boxSelection.boxes 8
        input.config.tokensToMint.poolNft.name input.config.tokensToMint.poolNft.description
        TokenAmount.one none = .ok (chain.poolNftToken, chain.signedMintPoolNftTx, 7) ∧
      mintToken (input.chainContext walletPkErgoTree)
        (filterTxOutputs walletPkErgoTree chain.signedMintPoolNftTx.outputs) 7
        input.config.tokensToMint.refreshNft.name
        input.config.tokensToMint.refreshNft.description TokenAmount.one none =
        .ok (chain.refreshNftToken, chain.signedMintRefreshNftTx, 6) ∧
      TokenAmount.new input.config.tokensToMint.ballotTokens.quantity = .ok ballotAmount ∧
      mintToken (input.chainContext walletPkErgoTree)
        (filterTxOutputs walletPkErgoTree chain.signedMintRefreshNftTx.outputs) 6
        input.config.tokensToMint.ballotTokens.name
        input.config.tokensToMint.ballotTokens.description ballotAmount none =
        .ok (chain.ballotToken, chain.signedMintBallotTokensTx, 5) ∧
      input.config.contracts.updateContract ⟨chain.poolNftToken.tokenId,
        chain.refreshNftToken.tokenId, dummyTokenId, dummyTokenId, dummyTokenId,
        chain.ballotToken.tokenId⟩ = .ok updateContract ∧
      mintToken (input.chainContext walletPkErgoTree)
        (filterTxOutputs walletPkErgoTree chain.signedMintBallotTokensTx.outputs) 5
        input.config.tokensToMint.updateNft.name
        input.config.tokensToMint.updateNft.description TokenAmount.one (some updateContract) =
        .ok (chain.updateNftToken, chain.signedMintUpdateNftTx, 4) ∧
      input.config.addresses.addressForOracleTokens.script = .ok oracleTokensPkErgoTree ∧
      TokenAmount.new input.config.tokensToMint.oracleTokens.quantity = .ok oracleAmount ∧
      mintToken (input.chainContext walletPkErgoTree)
        (filterTxOutputs walletPkErgoTree chain.signedMintUpdateNftTx.outputs) 4
        input.config.tokensToMint.oracleTokens.name
        input.config.tokensToMint.oracleTokens.description oracleAmount
        (some oracleTokensPkErgoTree) =
        .ok (chain.oracleToken, chain.signedMintOracleTokensTx, 3) ∧
      TokenAmount.new input.config.tokensToMint.rewardTokens.quantity = .ok rewardAmount ∧
      mintToken (input.chainContext walletPkErgoTree)
        (filterTxOutputs walletPkErgoTree chain.signedMintOracleTokensTx.outputs) 3
        input.config.tokensToMint.rewardTokens.name
        input.config.tokensToMint.rewardTokens.description rewardAmount none =
        .ok (chain.rewardToken, chain.signedMintRewardTokensTx, 2) ∧
      createPoolBox (input.chainContext walletPkErgoTree) input.config.contracts
        ⟨chain.poolNftToken.tokenId, chain.refreshNftToken.tokenId, chain.updateNftToken.tokenId,
          chain.oracleToken.tokenId, chain.rewardToken.tokenId, chain.ballotToken.tokenId⟩
        chain.poolNftToken chain.oracleToken chain.rewardToken chain.signedMintPoolNftTx
        chain.signedMintRewardTokensTx 2 = .ok (chain.signedPoolBoxTx, 1) ∧
      createRefreshBox (input.chainContext walletPkErgoTree) input.config.contracts
        ⟨chain.poolNftToken.tokenId, chain.refreshNftToken.tokenId, chain.updateNftToken.tokenId,
          chain.oracleToken.tokenId, chain.rewardToken.tokenId, chain.ballotToken.tokenId⟩
        chain.refreshNftToken chain.signedMintRefreshNftTx chain.signedPoolBoxTx 1 =
        .ok chain.signedRefreshBoxTx := by
  obtain ⟨walletPkErgoTree, script, built⟩ := bind_eq_ok.mp built
  obtain ⟨unspentBoxes, unspent, built⟩ := bind_eq_ok.mp built
  obtain ⟨targetBalance, target, built⟩ := bind_eq_ok.mp built
  obtain ⟨boxSelection, selected, built⟩ := bind_eq_ok.mp built
  obtain ⟨⟨poolNftToken, mintPoolNftTx, left⟩, poolNft, built⟩ := bind_eq_ok.mp built
  obtain rfl := mintToken_left poolNft
  obtain ⟨⟨refreshNftToken, mintRefreshNftTx, left⟩, refreshNft, built⟩ := bind_eq_ok.mp built
  obtain rfl := mintToken_left refreshNft
  obtain ⟨ballotAmount, ballotQuantity, built⟩ := bind_eq_ok.mp built
  obtain ⟨⟨ballotToken, mintBallotTx, left⟩, ballot, built⟩ := bind_eq_ok.mp built
  obtain rfl := mintToken_left ballot
  obtain ⟨updateContract, update, built⟩ := bind_eq_ok.mp built
  obtain ⟨⟨updateNftToken, mintUpdateNftTx, left⟩, updateNft, built⟩ := bind_eq_ok.mp built
  obtain rfl := mintToken_left updateNft
  obtain ⟨oracleTokensPkErgoTree, oracleScript, built⟩ := bind_eq_ok.mp built
  obtain ⟨oracleAmount, oracleQuantity, built⟩ := bind_eq_ok.mp built
  obtain ⟨⟨oracleToken, mintOracleTx, left⟩, oracle, built⟩ := bind_eq_ok.mp built
  obtain rfl := mintToken_left oracle
  obtain ⟨rewardAmount, rewardQuantity, built⟩ := bind_eq_ok.mp built
  obtain ⟨⟨rewardToken, mintRewardTx, left⟩, reward, built⟩ := bind_eq_ok.mp built
  obtain rfl := mintToken_left reward
  obtain ⟨⟨poolBoxTx, left⟩, pool, built⟩ := bind_eq_ok.mp built
  obtain ⟨-, -, -, -, -, -, -, -, -, -, -, rfl, -⟩ := createPoolBox_ok pool
  obtain ⟨refreshBoxTx, refresh, built⟩ := bind_eq_ok.mp built
  cases built
  exact ⟨walletPkErgoTree, unspentBoxes, targetBalance, boxSelection, ballotAmount,
    updateContract, oracleTokensPkErgoTree, oracleAmount, rewardAmount, lift_eq_ok.mp script,
    lift_eq_ok.mp unspent, lift_eq_ok.mp target, lift_eq_ok.mp selected, poolNft, refreshNft,
    unwrap_eq_ok.mp ballotQuantity, ballot, lift_eq_ok.mp update, updateNft,
    lift_eq_ok.mp oracleScript, unwrap_eq_ok.mp oracleQuantity, oracle,
    unwrap_eq_ok.mp rewardQuantity, reward, pool, refresh⟩

section TestBootstrap

/-- The key of the bootstrap test's wallet, which also receives the oracle tokens. -/
def testWalletAddress : Address := ⟨.ok ⟨1⟩⟩

def testChangeAddress : Address := ⟨.ok ⟨2⟩⟩

/-- The test's one wallet box, of `10000 * SAFE_USER_MIN`. -/
def testWalletBox : ErgoBox :=
  ⟨⟨⟨10000 * 1000000, by decide, by decide⟩, ⟨1⟩, [], [], 91⟩, ⟨0⟩, 0, ⟨7⟩⟩

def testConfig : BootstrapConfig where
  contracts := ⟨fun _ => .ok ⟨3⟩, fun _ => .ok ⟨4⟩, fun _ => .ok ⟨5⟩⟩
  tokensToMint := ⟨⟨"pool NFT", "Pool NFT"⟩, ⟨"refresh NFT", "refresh NFT"⟩,
    ⟨"update NFT", "update NFT"⟩, ⟨"oracle token", "oracle token", 15⟩,
    ⟨"ballot token", "ballot token", 15⟩, ⟨"reward token", "reward token", 100000000⟩⟩
  nodeIp := "127.0.0.1"
  nodePort := "9053"
  nodeApiKey := "hello"
  addresses := ⟨testWalletAddress, testWalletAddress⟩

/-- The test's input, with `SAFE_USER_MIN` per box and as fee, a signer that names each
transaction after its first input, and a submitter that accepts every transaction. -/
def testBootstrapInput : BootstrapInput where
  config := testConfig
  wallet := .ok [testWalletBox]
  txSigner := fun tx _ => .ok ⟨(tx.inputs.head?.map fun box => box.boxId.digest).getD 0 + 1⟩
  submitTx := fun _ _ => .ok ""
  txFee := BoxValue.SAFE_USER_MIN
  ergValuePerBox := BoxValue.SAFE_USER_MIN
  changeAddress := testChangeAddress
  height := 100

end TestBootstrap

end OracleCore
