import Remittance.Proofs.Decimal.Rounding
import Remittance.Proofs.Desk.Report
/-!
# Which settled transfers conserve money

A settled transfer conserves money when the amount left one account and entered the other, and the
total is what it was (`Summary.Conserves`). The two balances are rounded on their own, so this holds
exactly when a decimal stands for each of them (`Desk.process_conserves_iff`). An amount that is
small beside a large balance can enter one account without leaving the other
(`Desk.process_not_conserves`).
-/

namespace Remittance

/-- The amount has left the debit account and entered the credit account, and the accounts together
hold what they held before. -/
structure Summary.Conserves (summary : Summary) : Prop where
  taken : ∃ s, summary.account? summary.debitAccount.text = some s ∧
    s.balance.toRat = s.balanceBefore.toRat - summary.amount.toRat
  given : ∃ s, summary.account? summary.creditAccount.text = some s ∧
    s.balance.toRat = s.balanceBefore.toRat + summary.amount.toRat
  total : (summary.accounts.map fun s => s.balance.toRat).sum =
    (summary.accounts.map fun s => s.balanceBefore.toRat).sum

section
variable {accounts : List Account} {supported : List Currency} {order : TransferOrder}
  {parties : Parties} {execution : Execution} (currency : Currency)

/-- A summary tells the accounts as they were supplied. -/
lemma Summary.before_ofExecution (hacceptable : order.Acceptable supported accounts parties)
    (hconcerns : execution.Concerns parties) :
    (Summary.ofExecution order currency execution accounts).accounts.map Snapshot.before =
      accounts := by
  show (accounts.map execution.report).map Snapshot.before = accounts
  rw [List.map_map]
  conv_rhs => rw [← List.map_id accounts]
  apply List.map_congr_left
  intro a ha
  exact Execution.before_report hacceptable hconcerns ha

/-- A summary conserves money just when both of its new balances are exact. -/
lemma Summary.conserves_ofExecution_iff (hacceptable : order.Acceptable supported accounts parties)
    (hconcerns : execution.Concerns parties) :
    (Summary.ofExecution order currency execution accounts).Conserves ↔
      execution.debit.balance.toRat = parties.debit.balance.toRat - order.amount.toRat ∧
        execution.credit.balance.toRat = parties.credit.balance.toRat + order.amount.toRat := by
  have hdebit := Execution.account?_debit hacceptable hconcerns currency
  have hcredit := Execution.account?_credit hacceptable hconcerns currency
  have hdebitBefore : execution.debit.balanceBefore = parties.debit.balance :=
    congrArg Account.balance hconcerns.debit
  have hcreditBefore : execution.credit.balanceBefore = parties.credit.balance :=
    congrArg Account.balance hconcerns.credit
  constructor
  · rintro ⟨⟨s, hs, htaken⟩, ⟨s', hs', hgiven⟩, -⟩
    obtain rfl : execution.debit = s := Option.some.inj (hdebit.symm.trans hs)
    obtain rfl : execution.credit = s' := Option.some.inj (hcredit.symm.trans hs')
    rw [← hdebitBefore, ← hcreditBefore]
    exact ⟨htaken, hgiven⟩
  · rintro ⟨htaken, hgiven⟩
    refine ⟨⟨_, hdebit, by rw [hdebitBefore]; exact htaken⟩,
      ⟨_, hcredit, by rw [hcreditBefore]; exact hgiven⟩, ?_⟩
    have hsum := Execution.sum_report hacceptable hconcerns fun a => a.balance.toRat
    have hbefore := congrArg (fun l => (l.map fun a => a.balance.toRat).sum)
      (Summary.before_ofExecution currency hacceptable hconcerns)
    simp only [List.map_map] at hbefore
    simp only [Snapshot.account_balance, htaken, hgiven] at hsum
    -- what the debit account loses is what the credit account gains
    have hcancel : (accounts.map fun b => (execution.report b).balance.toRat).sum =
        (accounts.map fun b => b.balance.toRat).sum := by
      rw [hsum]
      ring
    show ((accounts.map execution.report).map fun s => s.balance.toRat).sum = _
    rw [List.map_map]
    exact hcancel.trans hbefore.symm

end

namespace Desk

variable {desk : Desk} {accounts : List Account} {instruction : List Char} {summary : Summary}

/-- A settled transfer takes both new balances as exactly as the last places allow, and it conserves
money if and only if no digit has to be rounded away in either of them. -/
theorem process_conserves_iff (hresult : (desk.process accounts instruction).result = .ok summary)
    (hstatus : summary.status = .successful) :
    summary.accounts.map Snapshot.before = accounts ∧
    ∃ order debit credit, Instruction.read instruction = .ok order ∧
      summary.amount = order.amount ∧
      summary.account? order.debitAccount.text = some debit ∧
      summary.account? order.creditAccount.text = some credit ∧
      debit.balance.Rounds (debit.balanceBefore.toRat - order.amount.toRat) ∧
      credit.balance.Rounds (credit.balanceBefore.toRat + order.amount.toRat) ∧
      (summary.Conserves ↔
        Decimal.Representable (debit.balanceBefore.toRat - order.amount.toRat) ∧
          Decimal.Representable (credit.balanceBefore.toRat + order.amount.toRat)) := by
  rcases process_cases desk accounts instruction with
    ⟨rejection, hreject⟩ | ⟨t, settlement, hcarried, hprocess⟩
  · rw [hreject] at hresult
    cases hresult
  · rw [hprocess] at hresult
    obtain rfl := Except.ok.inj hresult
    have hacceptable := hcarried.acceptable
    have hconcerns := hcarried.concerns
    have hdebit := Execution.account?_debit hacceptable hconcerns t.currency
    have hcredit := Execution.account?_credit hacceptable hconcerns t.currency
    have hiff := Summary.conserves_ofExecution_iff t.currency hacceptable hconcerns
    cases hcarried.ending with
    | settled due taken nonNegative given agreed =>
      have hexact := and_congr (Decimal.toRat_eq_sub_iff taken) (Decimal.toRat_eq_add_iff given)
      exact ⟨Summary.before_ofExecution t.currency hacceptable hconcerns, t.order, _, _,
        hcarried.read, rfl, hdebit, hcredit, Decimal.rounds_of_sub? taken,
        Decimal.rounds_of_add? given, hiff.trans hexact⟩
    | refused | undebited | uncredited | reserved | held => cases hstatus

/-- Forty kobo leave an account of a hundred naira and enter another one. -/
theorem process_conserves_forty_kobo :
    let debit : Account :=
      ⟨⟨"A", by decide, by decide⟩, ⟨false, 100, 0, by decide, by decide⟩, .ngn⟩
    let credit : Account := ⟨⟨"B", by decide, by decide⟩, .zero, .ngn⟩
    let desk := Desk.ofSettings Currency.defaults .reserveDebit
      ⟨2030, 6, 15, by decide, by decide, by decide⟩ .acceptAll
    ∃ summary, (desk.process [debit, credit] "DEBIT A 0.4; CREDIT B 0.4".toList).result =
      .ok summary ∧ summary.status = .successful ∧ summary.Conserves := by
  intro debit credit desk
  have hread : Instruction.read "DEBIT A 0.4; CREDIT B 0.4".toList =
      .ok ⟨.debit, debit.id, credit.id, ⟨false, 4, 1, by decide, by decide⟩, none, none⟩ := by rfl
  have hrun : (desk.process [debit, credit] "DEBIT A 0.4; CREDIT B 0.4".toList).result.toOption.map
      (fun s => (s.status, s.account? "A", s.account? "B")) = some (.successful,
        some (debit.withBalance ⟨false, 996, 1, by decide, by decide⟩),
        some (credit.withBalance ⟨false, 4, 1, by decide, by decide⟩)) := by decide +kernel
  cases hresult : (desk.process [debit, credit] "DEBIT A 0.4; CREDIT B 0.4".toList).result with
  | error rejection =>
    rw [hresult] at hrun
    cases hrun
  | ok summary =>
    rw [hresult] at hrun
    have hfields := Option.some.inj hrun
    simp only [Prod.mk.injEq] at hfields
    obtain ⟨hstatus, hdebit, hcredit⟩ := hfields
    obtain ⟨-, order, s, s', horder, -, hs, hs', -, -, hiff⟩ :=
      process_conserves_iff hresult hstatus
    obtain rfl := Except.ok.inj (hread.symm.trans horder)
    obtain rfl := Option.some.inj (hdebit.symm.trans hs)
    obtain rfl := Option.some.inj (hcredit.symm.trans hs')
    refine ⟨summary, rfl, hstatus, hiff.mpr ⟨⟨⟨false, 996, 1, by decide, by decide⟩, ?_⟩,
      ⟨⟨false, 4, 1, by decide, by decide⟩, ?_⟩⟩⟩
    · decide +kernel
    · decide +kernel

/-- Forty kobo enter an account without leaving the other one, whose balance has no room for a digit
behind the point. -/
theorem process_not_conserves :
    let debit : Account := ⟨⟨"A", by decide, by decide⟩,
      ⟨false, 79228162514264337593543950335, 0, by decide, by decide⟩, .ngn⟩
    let credit : Account := ⟨⟨"B", by decide, by decide⟩, .zero, .ngn⟩
    let desk := Desk.ofSettings Currency.defaults .reserveDebit
      ⟨2030, 6, 15, by decide, by decide, by decide⟩ .acceptAll
    ∃ summary, (desk.process [debit, credit] "DEBIT A 0.4; CREDIT B 0.4".toList).result =
      .ok summary ∧ summary.status = .successful ∧ ¬ summary.Conserves := by
  refine ⟨_, rfl, rfl, ?_⟩
  intro h
  have htotal := h.total
  revert htotal
  decide +kernel

end Desk

end Remittance
