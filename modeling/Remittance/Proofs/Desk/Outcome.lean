import Remittance.Proofs.Desk.Report
/-!
# What becomes of an accepted instruction

The day of the order, the room in the credit account and the gateway decide what an accepted
instruction is answered with (`Desk.process_asks_gateway_at_most_once`). The amount can always be
taken from the debit account. The gateway is asked once if both new balances are at hand, and
otherwise not at all: what it would have said makes no difference (`Desk.process_gateway`).
-/

namespace Remittance

/-- The summary tells this status with its code and its reason, and these accounts. -/
structure Summary.Tells (summary : Summary) (status code reason : String)
    (accounts : List Snapshot) : Prop where
  status_eq : summary.status.text = status
  code_eq : summary.code.text = code
  reason_eq : summary.reason = reason
  accounts_eq : summary.accounts = accounts

/-- The reports on all accounts when the two accounts of the order have these new balances. -/
def TransferOrder.reports (order : TransferOrder) (accounts : List Account)
    (debit credit : Decimal) : List Snapshot :=
  accounts.map fun a =>
    if a.id = order.debitAccount then a.withBalance debit
    else if a.id = order.creditAccount then a.withBalance credit
    else a.unchanged

section
variable {supported : List Currency} {accounts : List Account} {order : TransferOrder}
  {parties : Parties} {debit credit : Decimal}

/-- The reports of an execution are told by its two new balances. -/
lemma Execution.map_report {execution : Execution}
    (hacceptable : order.Acceptable supported accounts parties)
    (hdebit : execution.debit = parties.debit.withBalance debit)
    (hcredit : execution.credit = parties.credit.withBalance credit) :
    accounts.map execution.report = order.reports accounts debit credit := by
  have hconcerns : execution.Concerns parties :=
    ⟨congrArg Snapshot.before hdebit, congrArg Snapshot.before hcredit⟩
  have hdebitId := hacceptable.debit_only.id_eq
  have hcreditId := hacceptable.credit_only.id_eq
  unfold TransferOrder.reports
  apply List.map_congr_left
  intro a ha
  rcases report_cases hacceptable hconcerns ha with
    ⟨rfl, hreport⟩ | ⟨rfl, hreport⟩ | ⟨hnotDebit, hnotCredit, hreport⟩
  · rw [hreport, hdebit, if_pos hdebitId]
  · have htwo : parties.credit.id ≠ order.debitAccount := hcreditId ▸ hacceptable.two_accounts.symm
    rw [hreport, hcredit, if_neg htwo, if_pos hcreditId]
  · rw [hreport, if_neg (hdebitId ▸ hnotDebit), if_neg (hcreditId ▸ hnotCredit)]

/-- Two accounts that keep their balances are reported as all the others are. -/
lemma TransferOrder.reports_unchanged (hacceptable : order.Acceptable supported accounts parties) :
    order.reports accounts parties.debit.balance parties.credit.balance =
      accounts.map Account.unchanged := by
  unfold reports
  apply List.map_congr_left
  intro a ha
  split_ifs with hdebit hcredit
  · rw [hacceptable.debit_only.unique ha hdebit]
    rfl
  · rw [hacceptable.credit_only.unique ha hcredit]
    rfl
  · rfl

end

/-! ## The part of the gateway -/

namespace ApprovedTransfer

/-- How a transfer ends that the debit account covers: the day, the room in the credit account and the
gateway decide it, in this order. -/
lemma execute_eq (t : ApprovedTransfer) (policy : PendingPolicy) (today : Date) (gateway : Gateway)
    {taken : Decimal}
    (htaken : t.parties.debit.debited t.order.amount = .ok (t.parties.debit.withBalance taken)) :
    t.execute policy today gateway =
      if t.IsDeferred today then
        ⟨.scheduled
          (t.parties.debit.withBalance (match policy with
            | .reserveDebit => taken
            | .hold => t.parties.debit.balance))
          t.parties.credit.unchanged, 0⟩
      else
        match t.parties.credit.balance.add? t.order.amount with
        | none => ⟨.failed t.parties (.balanceOverflow t.parties.credit.id), 0⟩
        | some given =>
          match gateway t.order with
          | .ok () =>
            ⟨.settled (t.parties.debit.withBalance taken) (t.parties.credit.withBalance given), 1⟩
          | .error fault => ⟨.failed t.parties fault, 1⟩ := by
  unfold execute
  split
  · rw [conclude_schedule]
    cases policy with
    | reserveDebit => simp only [htaken]
    | hold => rfl
  · rw [conclude_settle, moved_eq, htaken, Account.credited]
    cases t.parties.credit.balance.add? t.order.amount with
    | none => rfl
    | some given => cases gateway t.order <;> rfl

/-- Where the gateway is not asked, or gives the same answer, the transfer ends in the same way. -/
lemma settle_congr (t : ApprovedTransfer) {gateway gateway' : Gateway}
    (h : (t.conclude (t.settle gateway)).gatewayCalls = 0 ∨
      gateway' t.order = gateway t.order) :
    t.conclude (t.settle gateway') = t.conclude (t.settle gateway) := by
  rw [conclude_settle] at h ⊢
  rw [conclude_settle]
  cases hmoved : t.moved with
  | error fault => rfl
  | ok pair =>
    rcases h with hcalls | hsame
    · rw [hmoved] at hcalls
      cases hgateway : gateway t.order <;> simp [hgateway] at hcalls
    · simp only [hsame]

lemma execute_congr (t : ApprovedTransfer) (policy : PendingPolicy) (today : Date)
    {gateway gateway' : Gateway}
    (h : (t.execute policy today gateway).gatewayCalls = 0 ∨
      gateway' t.order = gateway t.order) :
    t.execute policy today gateway' = t.execute policy today gateway := by
  unfold execute at h ⊢
  split
  · rfl
  · next due =>
    rw [if_neg due] at h
    exact t.settle_congr h

end ApprovedTransfer

namespace Desk

section
variable {desk : Desk} {accounts : List Account} {instruction : List Char}

lemma process_of_rejected {rejection : Rejection}
    (h : desk.approve accounts instruction = .error rejection) :
    desk.process accounts instruction = ⟨.error rejection, 0⟩ := by
  rw [process, h]

lemma process_of_approved {t : ApprovedTransfer}
    (h : desk.approve accounts instruction = .ok t) :
    desk.process accounts instruction =
      ⟨.ok (.ofExecution t.order t.currency (desk.execute t).execution accounts),
        (desk.execute t).gatewayCalls⟩ := by
  rw [process, h]

end

/-- A gateway matters to a desk only where it is asked, and only by what it says to the order. -/
theorem process_gateway (desk : Desk) (accounts : List Account) (instruction : List Char)
    (gateway : Gateway)
    (h : (desk.process accounts instruction).gatewayCalls = 0 ∨
      ∀ order, Instruction.read instruction = .ok order → gateway order = desk.gateway order) :
    { desk with gateway := gateway }.process accounts instruction =
      desk.process accounts instruction := by
  have happrove : { desk with gateway := gateway }.approve accounts instruction =
      desk.approve accounts instruction := rfl
  unfold process at h ⊢
  rw [happrove]
  cases htransfer : desk.approve accounts instruction with
  | error rejection => rfl
  | ok t =>
    have hread := (approve_eq_ok_iff.mp htransfer).1
    rw [htransfer] at h
    have hexecute : { desk with gateway := gateway }.execute t = desk.execute t :=
      t.execute_congr desk.policy desk.today (h.imp_right fun hsame => hsame t.order hread)
    simp only [hexecute]

/-! ## The answer -/

/-- A rejected instruction never reaches the gateway. For an accepted one the amount can be taken from
the debit account, and one of three things happens. Before its day the transfer is scheduled, and the
amount is reserved or held. From its day on it fails if the amount has no room in the credit account,
and else the gateway is asked once and decides whether both balances move or none does. -/
theorem process_asks_gateway_at_most_once (desk : Desk) (accounts : List Account)
    (instruction : List Char) :
    let outcome := desk.process accounts instruction
    (∀ rejection, outcome.result = .error rejection → outcome.gatewayCalls = 0) ∧
    (∀ summary, outcome.result = .ok summary →
      ∃ order debit credit taken, Instruction.read instruction = .ok order ∧
        IsOnlyAccount accounts order.debitAccount debit ∧
        IsOnlyAccount accounts order.creditAccount credit ∧
        debit.balance.sub? order.amount = some taken ∧
        debit.debited order.amount = .ok (debit.withBalance taken) ∧
        if ∃ day ∈ order.executeBy, desk.today < day then
          outcome.gatewayCalls = 0 ∧
          summary.Tells "pending" "AP02" "Transaction scheduled for future execution"
            (order.reports accounts
              (match desk.policy with
                | .reserveDebit => taken
                | .hold => debit.balance)
              credit.balance)
        else
          match credit.balance.add? order.amount with
          | none =>
            outcome.gatewayCalls = 0 ∧
            summary.Tells "failed" "SF02" s!"balance overflow on account '{credit.id}'"
              (accounts.map Account.unchanged)
          | some given =>
            outcome.gatewayCalls = 1 ∧
            match desk.gateway order with
            | .ok () =>
              summary.Tells "successful" "AP00" "Transaction executed successfully"
                (order.reports accounts taken given)
            | .error fault =>
              summary.Tells "failed"
                (match fault with
                  | .rejected _ => "SF01"
                  | .balanceOverflow _ | .negativeBalance _ => "SF02")
                fault.message (accounts.map Account.unchanged)) ∧
    ∀ gateway, (outcome.gatewayCalls = 0 ∨
        ∀ order, Instruction.read instruction = .ok order → gateway order = desk.gateway order) →
      { desk with gateway := gateway }.process accounts instruction = outcome := by
  refine ⟨?_, ?_, desk.process_gateway accounts instruction⟩
  · intro rejection hresult
    rw [process_of_rejected (process_eq_error_iff.mp hresult)]
  · intro summary hresult
    obtain ⟨t, happrove, rfl⟩ := process_eq_ok_iff.mp hresult
    obtain ⟨hread, hacceptable, -⟩ := approve_eq_ok_iff.mp happrove
    obtain ⟨taken, htaken, hdebited⟩ :=
      t.parties.debit.exists_debited_of_funds hacceptable.amount_pos hacceptable.funds
    refine ⟨t.order, t.parties.debit, t.parties.credit, taken, hread, hacceptable.debit_only,
      hacceptable.credit_only, htaken, hdebited, ?_⟩
    have hunchanged := TransferOrder.reports_unchanged hacceptable
    rw [process_of_approved happrove]
    unfold execute
    rw [t.execute_eq desk.policy desk.today desk.gateway hdebited]
    split
    · next hday =>
      have deferred : t.IsDeferred desk.today := hday
      rw [if_pos deferred]
      exact ⟨rfl, rfl, rfl, rfl, Execution.map_report hacceptable rfl rfl⟩
    · next hday =>
      have due : ¬ t.IsDeferred desk.today := hday
      rw [if_neg due]
      cases t.parties.credit.balance.add? t.order.amount with
      | none =>
        refine ⟨rfl, rfl, rfl, rfl, ?_⟩
        rw [← hunchanged]
        exact Execution.map_report hacceptable rfl rfl
      | some given =>
        cases desk.gateway t.order with
        | ok agreed => exact ⟨rfl, rfl, rfl, rfl, Execution.map_report hacceptable rfl rfl⟩
        | error fault =>
          refine ⟨rfl, rfl, ?_, rfl, ?_⟩
          · cases fault <;> rfl
          · rw [← hunchanged]
            exact Execution.map_report hacceptable rfl rfl

end Desk

end Remittance
