import OracleCore.Bootstrap.Budget
import OracleCore.Bootstrap.Submission

/-!
# A minting step that spends the pool NFT box

Each minting step selects among the outputs of the step before it that stand
under the wallet's key: the token box that step minted, its remainder and, when
the change address is the wallet's own, its change.  With no target tokens the
selector looks at them last first.  When the first transaction's change is
below `SAFE_USER_MIN` and other than `E_7`, the second transaction takes that
change, then the remainder, which leaves a value change below `SAFE_USER_MIN`,
and so the pool NFT box as well: the box the pool-box step later looks up with
`find` and spends a second time.
-/

namespace OracleCore

/-- A selection among one box takes that box. -/
theorem select_singleton {box : ErgoBox} {targetBalance : BoxValue} {targetTokens : List Token}
    {selection : BoxSelection}
    (selected : SimpleBoxSelector.select [box] targetBalance targetTokens = .ok selection) :
    selection.boxes = [box] := by
  obtain ⟨chosen, reordered, sublist⟩ := select_boxes_subperm selected
  rcases List.sublist_singleton.mp sublist with rfl | rfl
  · exact absurd (List.Perm.eq_nil reordered.symm) selection.boxes_ne
  · exact List.perm_singleton.mp reordered.symm

/-- The boxes of a transaction whose outputs are the four given candidates. -/
theorem outputs_eq_of_map_eq {outputs : List ErgoBox}
    {first second third fourth : ErgoBoxCandidate}
    (mapped : outputs.map ErgoBox.toErgoBoxCandidate = [first, second, third, fourth]) :
    ∃ firstBox secondBox thirdBox fourthBox,
      outputs = [firstBox, secondBox, thirdBox, fourthBox] ∧
      firstBox.toErgoBoxCandidate = first ∧ secondBox.toErgoBoxCandidate = second ∧
      thirdBox.toErgoBoxCandidate = third ∧ fourthBox.toErgoBoxCandidate = fourth := by
  rcases outputs with
    _ | ⟨firstBox, _ | ⟨secondBox, _ | ⟨thirdBox, _ | ⟨fourthBox, _ | ⟨_, _⟩⟩⟩⟩⟩ <;>
    simp only [List.map_cons, List.map_nil, List.cons.injEq, reduceCtorEq, and_false,
      false_and] at mapped
  exact ⟨firstBox, secondBox, thirdBox, fourthBox, rfl, mapped.1, mapped.2.1, mapped.2.2.1,
    mapped.2.2.2.1⟩

/-- A minting step on one box worth more than `E_left`, whose change goes back to the wallet's
key, passes on its token box, its remainder and its change, in this order. -/
theorem mintToken_single_box {ctx : ChainContext} {walletBox : ErgoBox} {left : Nat}
    {tokenName tokenDesc : String} {tokenAmount : TokenAmount} {token : Token} {tx : Transaction}
    {left' : Nat}
    (minted : mintToken ctx [walletBox] left tokenName tokenDesc tokenAmount none =
      .ok (token, tx, left'))
    (changeToWallet : ctx.changeAddress.script = .ok ctx.walletPkErgoTree)
    (notFee : ctx.walletPkErgoTree ≠ minersFeeTree)
    (over : left * (ctx.ergValuePerBox.raw + ctx.txFee.raw) < walletBox.value.raw) :
    ∃ tokenBox remainder change,
      findTokenBox token.tokenId tx.outputs = some tokenBox ∧
      filterTxOutputs ctx.walletPkErgoTree tx.outputs = [tokenBox, remainder, change] ∧
      remainder.value.raw = (left - 1) * (ctx.ergValuePerBox.raw + ctx.txFee.raw) ∧
      change.value.raw + left * (ctx.ergValuePerBox.raw + ctx.txFee.raw) = walletBox.value.raw := by
  obtain ⟨target, remainingFunds, selection, changeTree, targeted, remaining, -, -, selected, -,
    changeScript, -, outputs⟩ := mintToken_ok minted
  obtain rfl := Except.ok.inj (changeToWallet.symm.trans changeScript)
  have spent := select_singleton selected
  have targetRaw := (calcTargetBalance_eq_ok.mp targeted).2.2.2.2.2
  obtain ⟨assets, single⟩ := select_change_of_over selected (by
    rw [spent, boxValue_cons, boxValue_nil, Nat.add_zero, targetRaw]
    exact over)
  have changeValue := select_value selected
  rw [spent, single] at changeValue
  rw [single] at outputs
  obtain ⟨tokenBox, remainder, change, fee, split, tokenBoxEq, remainderEq, changeEq, feeEq⟩ :=
    outputs_eq_of_map_eq outputs
  obtain ⟨held, tokenGuarded⟩ := ErgoBox.eq_mintedTokenBox tokenBoxEq
  have remainderGuarded : remainder.ergoTree = ctx.walletPkErgoTree :=
    congrArg ErgoBoxCandidate.ergoTree remainderEq
  have changeGuarded : change.ergoTree = ctx.walletPkErgoTree :=
    congrArg ErgoBoxCandidate.ergoTree changeEq
  have feeGuarded : fee.ergoTree = minersFeeTree := congrArg ErgoBoxCandidate.ergoTree feeEq
  have remainderValue : remainder.value = remainingFunds :=
    congrArg ErgoBoxCandidate.value remainderEq
  have changeOutValue : change.value = assets.value := congrArg ErgoBoxCandidate.value changeEq
  refine ⟨tokenBox, remainder, change, findTokenBox_of_head (by rw [split]; rfl) held, ?_, ?_, ?_⟩
  · simp [split, filterTxOutputs, tokenGuarded, remainderGuarded, changeGuarded, feeGuarded,
      Ne.symm notFee]
  · rw [remainderValue, (calcTargetBalance_eq_ok.mp remaining).2.2.2.2.2]
  · simp only [boxValue_cons, boxValue_nil, List.map_cons, List.map_nil, List.sum_cons,
      List.sum_nil] at changeValue
    rw [changeOutValue]
    omega

section SmallChange

variable {input : BootstrapInput} {chain : SignedChain} {walletPkErgoTree : ErgoTree}
  {walletBox : ErgoBox}

/-- When the wallet is one box worth `E_8` and a change below `SAFE_USER_MIN` other than `E_7`,
and the change goes back to the wallet's key, the refresh-NFT mint spends the pool NFT box that
the pool-box step looks up with `find`. -/
theorem buildSignedChain_spends_pool_nft_box (built : buildSignedChain input = .ok chain)
    (walletKey : input.config.addresses.walletAddressForChainTransaction.script =
      .ok walletPkErgoTree)
    (changeToWallet : input.changeAddress.script = .ok walletPkErgoTree)
    (notFee : walletPkErgoTree ≠ minersFeeTree)
    (funds : input.wallet = .ok [walletBox])
    (over : 8 * (input.ergValuePerBox.raw + input.txFee.raw) < walletBox.value.raw)
    (small : walletBox.value.raw <
      8 * (input.ergValuePerBox.raw + input.txFee.raw) + BoxValue.SAFE_USER_MIN.raw)
    (otherThanE7 : walletBox.value.raw ≠ 15 * (input.ergValuePerBox.raw + input.txFee.raw)) :
    ∃ poolNftBox,
      findTokenBox chain.poolNftToken.tokenId chain.signedMintPoolNftTx.outputs =
        some poolNftBox ∧
      poolNftBox ∈ chain.signedMintRefreshNftTx.inputs := by
  obtain ⟨_, _, _, sweep, _, _, _, _, _, script, unspent, -, swept, poolNft, refreshNft, -⟩ :=
    buildSignedChain_ok built
  obtain rfl := Except.ok.inj (walletKey.symm.trans script)
  obtain rfl := Except.ok.inj (funds.symm.trans unspent)
  rw [select_singleton swept] at poolNft
  -- The first transaction passes on the pool NFT box, the remainder `E_7` and the change.
  obtain ⟨poolNftBox, remainder, change, found, filtered, remainderValue, changeValue⟩ :=
    mintToken_single_box poolNft changeToWallet notFee over
  -- The second transaction selects the change, the remainder and the pool NFT box.
  obtain ⟨sevenLeft, _, selection, _, sevenOk, -, -, -, selected, -, -, inputs, -⟩ :=
    mintToken_ok refreshNft
  have sevenRaw := (calcTargetBalance_eq_ok.mp sevenOk).2.2.2.2.2
  simp only [BootstrapInput.chainContext_ergValuePerBox, BootstrapInput.chainContext_txFee,
    BootstrapInput.chainContext_walletPkErgoTree] at filtered remainderValue changeValue sevenRaw
  rw [filtered] at selected
  have spent := select_small_change selected (by omega) (by omega) (by omega)
  refine ⟨poolNftBox, found, ?_⟩
  rw [inputs, spent]
  exact List.mem_cons_of_mem _ (List.mem_cons_of_mem _ (List.mem_singleton_self _))

/-- The test wallet funded with `E_8` and 20000 nanoERG more. -/
def smallChangeWalletBox : ErgoBox :=
  ⟨⟨⟨8 * 2000000 + 20000, by decide, by decide⟩, ⟨1⟩, [], [], 91⟩, ⟨0⟩, 0, ⟨7⟩⟩

/-- The test run on that wallet, with the change going back to the wallet's key. -/
def smallChangeInput : BootstrapInput :=
  { testBootstrapInput with
    wallet := .ok [smallChangeWalletBox]
    changeAddress := testWalletAddress }

/-- The run on the small-change wallet succeeds against a node that accepts everything, and
its eight transactions spend a box twice: the pool NFT box, in the second transaction and in
the pool-box transaction. -/
theorem buildSignedChain_spends_pool_nft_box_smallChange :
    ∃ chain, buildSignedChain smallChangeInput = .ok chain ∧
      (∃ fields, (performBootstrapChainedTransaction smallChangeInput).2 = .ok fields) ∧
      (∃ poolNftBox,
        findTokenBox chain.poolNftToken.tokenId chain.signedMintPoolNftTx.outputs =
          some poolNftBox ∧
        poolNftBox ∈ chain.signedMintRefreshNftTx.inputs) ∧
      ¬ (chain.transactions.flatMap fun tx => tx.inputs.map ErgoBox.boxId).Nodup :=
  have spends := @buildSignedChain_spends_pool_nft_box smallChangeInput _ ⟨1⟩
    smallChangeWalletBox rfl rfl rfl (by decide) rfl (by decide) (by decide) (by decide)
  ⟨_, rfl, ⟨_, rfl⟩, spends, by decide⟩

end SmallChange

end OracleCore
