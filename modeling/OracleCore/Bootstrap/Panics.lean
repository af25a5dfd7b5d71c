import OracleCore.Bootstrap.Budget
import OracleCore.Bootstrap.Submission

/-!
# Panics of the bootstrap chain

`perform_bootstrap_chained_transaction` returns most failures as errors, but it
converts the ballot, oracle and reward quantities with `try_into().unwrap()`,
builds the pool contract with `PoolContract::new(..).unwrap()` and takes the
pool box's reward tokens with `checked_sub(..).unwrap()`.  These are its only
panics: `num_transactions_left` never drops below one, and the
`find(..).unwrap()` lookups of the two NFT boxes always find the token box that
the minting step put first among its outputs.
-/

namespace OracleCore

/-- The configuration makes one of the chain's `unwrap`s fail: a quantity outside the range
of `TokenAmount`, no more reward tokens than oracle tokens, or a pool contract that cannot be
built for some token ids. -/
def UnwrapsFail (config : BootstrapConfig) : Prop :=
  (∃ quantity ∈ [config.tokensToMint.ballotTokens.quantity,
      config.tokensToMint.oracleTokens.quantity, config.tokensToMint.rewardTokens.quantity],
      quantity = 0 ∨ TokenAmount.MAX_RAW < quantity) ∨
    config.tokensToMint.rewardTokens.quantity ≤ config.tokensToMint.oracleTokens.quantity ∨
    ∃ tokenIds error, config.contracts.poolContract tokenIds = .error error

/-- A fault that is an error, or the panic of an `unwrap` when `explained` holds. -/
def PanicsOnlyWhen (explained : Prop) : Fault BootstrapError → Prop
  | .error _ => True
  | .panic site => site = .unwrapFailed ∧ explained

theorem TokenAmount.outside_of_new_error {raw : Nat} {error : TokenAmountError}
    (failed : TokenAmount.new raw = .error error) : raw = 0 ∨ TokenAmount.MAX_RAW < raw := by
  unfold TokenAmount.new at failed
  split at failed
  · cases failed
  · omega

theorem TokenAmount.le_of_checkedSub_error {left right : TokenAmount} {error : TokenAmountError}
    (failed : left.checkedSub right = .error error) : left.raw ≤ right.raw := by
  unfold TokenAmount.checkedSub at failed
  split at failed
  · have := left.le_max
    have := TokenAmount.outside_of_new_error failed
    omega
  · omega

/-- A minted token carries the amount the step was asked to mint. -/
theorem mintToken_amount {ctx : ChainContext} {inputBoxes : List ErgoBox} {left : Nat}
    {tokenName tokenDesc : String} {tokenAmount : TokenAmount} {guard : Option ErgoTree}
    {token : Token} {tx : Transaction} {left' : Nat}
    (minted : mintToken ctx inputBoxes left tokenName tokenDesc tokenAmount guard =
      .ok (token, tx, left')) : token.amount = tokenAmount := by
  obtain ⟨-, -, -, -, -, -, -, -, -, rfl, -⟩ := mintToken_ok minted
  rfl

/-- The token box a minting step puts first is what `find` returns for its token. -/
theorem mintToken_findTokenBox {ctx : ChainContext} {inputBoxes : List ErgoBox} {left : Nat}
    {tokenName tokenDesc : String} {tokenAmount : TokenAmount} {guard : Option ErgoTree}
    {token : Token} {tx : Transaction} {left' : Nat}
    (minted : mintToken ctx inputBoxes left tokenName tokenDesc tokenAmount guard =
      .ok (token, tx, left')) :
    ∃ tokenBox, findTokenBox token.tokenId tx.outputs = some tokenBox := by
  obtain ⟨-, tokenBox, first, same⟩ := mintToken_budget minted
  exact ⟨tokenBox, findTokenBox_of_head first (ErgoBox.eq_mintedTokenBox same).1⟩

section Steps

variable {explained : Prop} (ctx : ChainContext)

theorem unwrap_panicsOnlyWhen {call : Except ε α} (explains : ∀ e, call = .error e → explained) :
    FailsOnly (PanicsOnlyWhen explained) (unwrap call : Bootstrap α) := by
  intro fault failed
  cases call with
  | error e => cases failed; exact ⟨rfl, explains e rfl⟩
  | ok value => cases failed

theorem buildAndSign_panicsOnlyWhen (boxSelection : BoxSelection)
    (outputCandidates : List ErgoBoxCandidate) :
    FailsOnly (PanicsOnlyWhen explained) (buildAndSign ctx boxSelection outputCandidates) :=
  .bind (.lift fun _ => trivial) fun _ _ => .bind (.lift fun _ => trivial) fun _ _ => .of_ok _

/-- A minting step with a transaction left never panics. -/
theorem mintToken_panicsOnlyWhen {inputBoxes : List ErgoBox} {left : Nat} (positive : 1 ≤ left)
    (tokenName tokenDesc : String) (tokenAmount : TokenAmount) (guard : Option ErgoTree) :
    FailsOnly (PanicsOnlyWhen explained)
      (mintToken ctx inputBoxes left tokenName tokenDesc tokenAmount guard) :=
  .bind (.lift fun _ => trivial) fun _ _ => .bind (.lift fun _ => trivial) fun _ _ =>
    .bind (.of_eq_ok (checkedSub_of_le positive)) fun _ _ =>
    .bind (.lift fun _ => trivial) fun _ _ => .bind (buildAndSign_panicsOnlyWhen _ _ _)
    fun _ _ => .bind (.of_eq_ok (checkedSub_of_le positive)) fun _ _ => .of_ok _

/-- The pool-box step panics only at the `unwrap`s of the pool contract and of the reward
tokens left for the pool box, once `find` holds the pool NFT box. -/
theorem createPoolBox_panicsOnlyWhen {contracts : BootstrapContracts} {tokenIds : TokenIds}
    {poolNftToken oracleToken rewardToken : Token}
    {signedMintPoolNftTx signedMintRewardTokensTx : Transaction} {left : Nat}
    (positive : 1 ≤ left)
    (contractExplains : ∀ e, contracts.poolContract tokenIds = .error e → explained)
    (rewardExplains : ∀ e, rewardToken.amount.checkedSub oracleToken.amount = .error e →
      explained)
    (found : ∃ box, findTokenBox poolNftToken.tokenId signedMintPoolNftTx.outputs = some box) :
    FailsOnly (PanicsOnlyWhen explained) (createPoolBox ctx contracts tokenIds poolNftToken
      oracleToken rewardToken signedMintPoolNftTx signedMintRewardTokensTx left) := by
  obtain ⟨box, found⟩ := found
  exact .bind (unwrap_panicsOnlyWhen contractExplains) fun _ _ =>
    .bind (unwrap_panicsOnlyWhen rewardExplains) fun _ _ =>
    .bind (.of_eq_ok (checkedSub_of_le positive)) fun _ _ =>
    .bind (.lift fun _ => trivial) fun _ _ => .bind (.lift fun _ => trivial) fun _ _ =>
    .bind (.of_eq_ok (unwrapSome_eq_ok.mpr found)) fun _ _ =>
    .bind (.lift fun _ => trivial) fun _ _ => .bind (buildAndSign_panicsOnlyWhen _ _ _)
    fun _ _ => .bind (.of_eq_ok (checkedSub_of_le positive)) fun _ _ => .of_ok _

/-- The refresh-box step never panics once `find` holds the refresh NFT box. -/
theorem createRefreshBox_panicsOnlyWhen {contracts : BootstrapContracts} {tokenIds : TokenIds}
    {refreshNftToken : Token} {signedMintRefreshNftTx signedPoolBoxTx : Transaction} {left : Nat}
    (found : ∃ box,
      findTokenBox refreshNftToken.tokenId signedMintRefreshNftTx.outputs = some box) :
    FailsOnly (PanicsOnlyWhen explained) (createRefreshBox ctx contracts tokenIds
      refreshNftToken signedMintRefreshNftTx signedPoolBoxTx left) := by
  obtain ⟨box, found⟩ := found
  exact .bind (.lift fun _ => trivial) fun _ _ => .bind (.lift fun _ => trivial) fun _ _ =>
    .bind (.of_eq_ok (unwrapSome_eq_ok.mpr found)) fun _ _ =>
    .bind (.lift fun _ => trivial) fun _ _ => buildAndSign_panicsOnlyWhen _ _ _

end Steps

/-- Building the chain panics only when the configuration makes an `unwrap` fail. -/
theorem buildSignedChain_panicsOnlyWhen (input : BootstrapInput) :
    FailsOnly (PanicsOnlyWhen (UnwrapsFail input.config)) (buildSignedChain input) := by
  refine .bind (.lift fun _ => trivial) fun walletPkErgoTree _ => ?_
  refine .bind (.lift fun _ => trivial) fun _ _ => .bind (.lift fun _ => trivial) fun _ _ =>
    .bind (.lift fun _ => trivial) fun _ _ => ?_
  refine .bind (mintToken_panicsOnlyWhen (input.chainContext walletPkErgoTree) (by decide)
    _ _ _ _) fun minted poolNft => ?_
  obtain ⟨poolNftToken, mintPoolNftTx, left⟩ := minted
  obtain rfl := mintToken_left poolNft
  refine .bind (mintToken_panicsOnlyWhen (input.chainContext walletPkErgoTree) (by decide)
    _ _ _ _) fun minted refreshNft => ?_
  obtain ⟨refreshNftToken, mintRefreshNftTx, left⟩ := minted
  obtain rfl := mintToken_left refreshNft
  refine .bind (unwrap_panicsOnlyWhen fun _ failed =>
    .inl ⟨_, by simp, TokenAmount.outside_of_new_error failed⟩) fun _ _ => ?_
  refine .bind (mintToken_panicsOnlyWhen (input.chainContext walletPkErgoTree) (by decide)
    _ _ _ _) fun minted ballot => ?_
  obtain ⟨ballotToken, mintBallotTx, left⟩ := minted
  obtain rfl := mintToken_left ballot
  refine .bind (.lift fun _ => trivial) fun _ _ => ?_
  refine .bind (mintToken_panicsOnlyWhen (input.chainContext walletPkErgoTree) (by decide)
    _ _ _ _) fun minted updateNft => ?_
  obtain ⟨updateNftToken, mintUpdateNftTx, left⟩ := minted
  obtain rfl := mintToken_left updateNft
  refine .bind (.lift fun _ => trivial) fun _ _ => ?_
  refine .bind (unwrap_panicsOnlyWhen fun _ failed =>
    .inl ⟨_, by simp, TokenAmount.outside_of_new_error failed⟩) fun oracleAmount oracleQuantity => ?_
  refine .bind (mintToken_panicsOnlyWhen (input.chainContext walletPkErgoTree) (by decide)
    _ _ _ _) fun minted oracle => ?_
  obtain ⟨oracleToken, mintOracleTx, left⟩ := minted
  obtain rfl := mintToken_left oracle
  refine .bind (unwrap_panicsOnlyWhen fun _ failed =>
    .inl ⟨_, by simp, TokenAmount.outside_of_new_error failed⟩) fun rewardAmount rewardQuantity => ?_
  refine .bind (mintToken_panicsOnlyWhen (input.chainContext walletPkErgoTree) (by decide)
    _ _ _ _) fun minted reward => ?_
  obtain ⟨rewardToken, mintRewardTx, left⟩ := minted
  obtain rfl := mintToken_left reward
  have oracleRaw : oracleToken.amount.raw = input.config.tokensToMint.oracleTokens.quantity := by
    rw [mintToken_amount oracle]
    exact TokenAmount.new_raw (unwrap_eq_ok.mp oracleQuantity)
  have rewardRaw : rewardToken.amount.raw = input.config.tokensToMint.rewardTokens.quantity := by
    rw [mintToken_amount reward]
    exact TokenAmount.new_raw (unwrap_eq_ok.mp rewardQuantity)
  refine .bind (createPoolBox_panicsOnlyWhen (input.chainContext walletPkErgoTree) (by decide)
    (fun _ failed => .inr (.inr ⟨_, _, failed⟩))
    (fun _ failed => .inr (.inl (rewardRaw ▸ oracleRaw ▸ TokenAmount.le_of_checkedSub_error failed)))
    (mintToken_findTokenBox poolNft)) fun _ _ => ?_
  exact .bind (createRefreshBox_panicsOnlyWhen (input.chainContext walletPkErgoTree)
    (mintToken_findTokenBox refreshNft)) fun _ _ => .of_ok _

/-- A panic of the run is a panic of building the chain: the submission loop only errs. -/
theorem buildSignedChain_of_panic {input : BootstrapInput} {site : Panic}
    (panicked : (performBootstrapChainedTransaction input).2 = .error (.panic site)) :
    buildSignedChain input = .error (.panic site) := by
  unfold performBootstrapChainedTransaction at panicked
  split at panicked
  · next fault built => cases panicked; exact built
  · split at panicked <;> cases panicked

/-- The run panics only at an `unwrap`, before anything is submitted, and only when the
configuration's quantities or pool contract make that `unwrap` fail; `find` never does. -/
theorem performBootstrapChainedTransaction_panics {input : BootstrapInput} {site : Panic}
    (panicked : (performBootstrapChainedTransaction input).2 = .error (.panic site)) :
    (performBootstrapChainedTransaction input).1 = [] ∧ site = .unwrapFailed ∧
      UnwrapsFail input.config := by
  have built := buildSignedChain_of_panic panicked
  rw [performBootstrapChainedTransaction_of_error built]
  exact ⟨rfl, buildSignedChain_panicsOnlyWhen input _ built⟩

/-- The test's input with no ballot tokens to mint. -/
def zeroBallotInput : BootstrapInput :=
  { testBootstrapInput with
    config := { testConfig with
      tokensToMint := { testConfig.tokensToMint with
        ballotTokens := ⟨"ballot token", "ballot token", 0⟩ } } }

/-- With a ballot quantity of zero the funded test run panics instead of returning an error. -/
theorem performBootstrapChainedTransaction_panics_zeroBallot :
    (performBootstrapChainedTransaction zeroBallotInput).2 = .error (.panic .unwrapFailed) ∧
      (performBootstrapChainedTransaction zeroBallotInput).1 = [] ∧
      Panic.unwrapFailed = .unwrapFailed ∧ UnwrapsFail zeroBallotInput.config :=
  have panicked : (performBootstrapChainedTransaction zeroBallotInput).2 =
      .error (.panic .unwrapFailed) := rfl
  ⟨panicked, performBootstrapChainedTransaction_panics panicked⟩

end OracleCore
