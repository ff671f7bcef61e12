import Mathlib.Data.List.Forall2
import Remittance.AccountTable
import Remittance.Proofs.Csv.Row
import Remittance.Proofs.Instruction.WrittenWords
import Remittance.Proofs.MoneyText
import Remittance.Proofs.Text.Utf8
/-!
# Tables are read as they are written

`Tabulates` says that bytes are a table of accounts: its columns stand in any order and may be among
others, and its fields are written in any way. The accounts of such a table are read, in their order
and with their balances, save for the sign of a zero (`AccountTable.read_of_tabulates`). The table
that is written of accounts is one of them (`AccountTable.tabulates_write`).
-/

namespace Remittance

/-! ## Records -/

/-- The same account, with a zero without a sign for a zero with one. -/
def Account.unsignZero (a : Account) : Account := { a with balance := a.balance.unsignZero }

/-- The record that an account is written as. -/
def Account.record (a : Account) : AccountRecord :=
  ⟨a.id.text, a.balance.toString, a.currency.code⟩

/-- An account without debts is read from its own record, save for the sign of a zero. -/
theorem AccountRecord.account_record {a : Account} (h : a.balance.NonNegative) :
    a.record.account = .ok a.unsignZero := by
  have hid : a.record.readId = .ok a.id := by
    have hread : AccountId.ofString? a.record.id = some a.id :=
      AccountId.ofString?_eq_some_iff.mpr rfl
    rw [readId, hread]
  have hcurrency : a.record.readCurrency = .ok a.currency := by
    have hread : Currency.ofString? a.record.currency = some a.currency :=
      Currency.ofString?_eq_some_iff.mpr rfl
    rw [readCurrency, hread]
  have hbalance : a.record.readBalance a.id = .ok a.balance.unsignZero := by
    have hread : Decimal.read? a.record.balance.toList = some a.balance.unsignZero := by
      rw [Account.record, Decimal.toString, String.toList_ofList, Decimal.read?_toChars]
    have hnonNegative := a.balance.nonNegative_unsignZero.mpr h
    simp only [readBalance, hread, hnonNegative, if_true]
  simp only [account, hid, hbalance, hcurrency, bind, Except.bind]
  rfl

namespace AccountTable

variable {field bytes : List UInt8} {fields : List (List UInt8)} {names texts : List String}
  {text name : String} {accounts : List Account} {account : Account} {cs : List Char}

/-! ## Fields -/

/-- A blank byte is a blank. -/
lemma isBlank_of_isBlankByte {b : UInt8} (h : isBlankByte b = true) :
    b.toNat < 128 ∧ Text.isBlank (Char.ofNat b.toNat) = true := by
  simp only [isBlankByte, Bool.or_eq_true, beq_iff_eq] at h
  rcases h with (((rfl | rfl) | rfl) | rfl) | rfl <;> decide

/-- A character is a blank that is one byte, or none of its bytes is blank. -/
lemma isBlankByte_cases (c : Char) :
    (∃ b, String.utf8EncodeChar c = [b] ∧ isBlankByte b = true ∧ Text.isBlank c = true) ∨
      ∀ b ∈ String.utf8EncodeChar c, isBlankByte b = false := by
  rcases Text.Utf8.utf8EncodeChar_cases c with ⟨hsmall, hbytes⟩ | ⟨-, hlarge⟩
  · rw [hbytes]
    cases hblank : isBlankByte (UInt8.ofNat c.toNat) with
    | true =>
      have hchar := (isBlank_of_isBlankByte hblank).2
      rw [Text.Utf8.toNat_ofNat (by omega), Char.ofNat_toNat] at hchar
      exact .inl ⟨_, rfl, hblank, hchar⟩
    | false => exact .inr (by simpa using hblank)
  · refine .inr fun b hb => ?_
    cases hblank : isBlankByte b with
    | true =>
      have := hlarge b hb
      have := (isBlank_of_isBlankByte hblank).1
      omega
    | false => rfl

/-- In front of bytes that are not blank there is nothing to drop. -/
lemma dropWhile_of_not_blank {bytes rest : List UInt8} (hne : bytes ≠ [])
    (h : ∀ b ∈ bytes, isBlankByte b = false) :
    (bytes ++ rest).dropWhile isBlankByte = bytes ++ rest := by
  obtain ⟨b, tail, rfl⟩ := List.exists_cons_of_ne_nil hne
  have hb : isBlankByte b = false := h b List.mem_cons_self
  exact List.dropWhile_cons_of_neg (by simp [hb])

/-- The blank bytes in front of a text are blanks of the text. -/
lemma dropWhile_encode (cs : List Char) : ∃ ds,
    (Text.Utf8.encode cs).dropWhile isBlankByte = Text.Utf8.encode ds ∧
      Text.trim ds = Text.trim cs := by
  induction cs with
  | nil => exact ⟨[], rfl, rfl⟩
  | cons c cs ih =>
    rw [Text.Utf8.encode_cons]
    rcases isBlankByte_cases c with ⟨b, hbytes, hb, hc⟩ | hfree
    · obtain ⟨ds, hdrop, htrim⟩ := ih
      refine ⟨ds, ?_, htrim.trans (Text.trim_cons hc cs).symm⟩
      rw [hbytes, List.singleton_append, List.dropWhile_cons_of_pos hb, hdrop]
    · refine ⟨c :: cs, ?_, rfl⟩
      rw [dropWhile_of_not_blank (Text.Utf8.utf8EncodeChar_ne_nil c) hfree, Text.Utf8.encode_cons]

/-- The blank bytes behind a text are blanks of the text. -/
lemma dropWhile_reverse_encode (cs : List Char) : ∃ ds,
    ((Text.Utf8.encode cs).reverse.dropWhile isBlankByte).reverse = Text.Utf8.encode ds ∧
      Text.trim ds = Text.trim cs := by
  induction cs using List.reverseRec with
  | nil => exact ⟨[], rfl, rfl⟩
  | append_singleton cs c ih =>
    have hsplit : Text.Utf8.encode (cs ++ [c]) =
        Text.Utf8.encode cs ++ String.utf8EncodeChar c := by
      rw [Text.Utf8.encode_append, Text.Utf8.encode_cons, Text.Utf8.encode_nil, List.append_nil]
    rcases isBlankByte_cases c with ⟨b, hbytes, hb, hc⟩ | hfree
    · obtain ⟨ds, hdrop, htrim⟩ := ih
      refine ⟨ds, ?_, htrim.trans (Text.trim_concat hc cs).symm⟩
      rw [hsplit, hbytes, List.reverse_concat, List.dropWhile_cons_of_pos hb, hdrop]
    · refine ⟨cs ++ [c], ?_, rfl⟩
      have hne : (String.utf8EncodeChar c).reverse ≠ [] :=
        List.reverse_ne_nil_iff.mpr (Text.Utf8.utf8EncodeChar_ne_nil c)
      rw [hsplit, List.reverse_append, dropWhile_of_not_blank hne (by simpa using hfree),
        ← List.reverse_append, List.reverse_reverse]

/-- The field holds the text, perhaps with blanks around it. -/
def HoldsText (text : String) (field : List UInt8) : Prop :=
  ∃ cs, field = Text.Utf8.encode cs ∧ Text.trim cs = text.toList

/-- The text that a field holds is read. -/
lemma readField_of_holdsText (h : HoldsText text field) : readField field = .ok text := by
  obtain ⟨cs, rfl, htext⟩ := h
  obtain ⟨ds, hfront, hds⟩ := dropWhile_encode cs
  obtain ⟨es, hback, hes⟩ := dropWhile_reverse_encode ds
  rw [readField, trimBytes, hfront, hback, Text.Utf8.decode_encode, Except.map, hes, hds, htext,
    String.ofList_toList]

lemma readFields_of_holdsText {place : Csv.Place} {position : ℕ}
    (h : List.Forall₂ HoldsText texts fields) : readFields place position fields = .ok texts := by
  induction h generalizing position with
  | nil => rfl
  | cons hfield _ ih =>
    rw [readFields, readField_of_holdsText hfield]
    exact congrArg (Except.map _) ih

lemma mapM_readField_of_holdsText (h : List.Forall₂ HoldsText texts fields) :
    fields.mapM readField = .ok texts := by
  induction h with
  | nil => rfl
  | cons hfield _ ih =>
    rw [List.mapM_cons, readField_of_holdsText hfield, ih]
    rfl

/-! ## Columns -/

/-- A used column has the name of no other one. -/
def UsesColumnsOnce (names : List String) : Prop := ∀ name ∈ columnNames, names.count name ≤ 1

instance (names : List String) : Decidable (UsesColumnsOnce names) :=
  inferInstanceAs (Decidable (∀ name ∈ columnNames, names.count name ≤ 1))

lemma repeatedColumn?_eq_none (h : UsesColumnsOnce names) : repeatedColumn? names = none := by
  rw [repeatedColumn?, Option.map_eq_none_iff, List.find?_eq_none]
  rintro ⟨name, i⟩ hmem
  have hget : names[i]? = some name := List.mem_zipIdx_iff_getElem?.mp hmem
  simp only [Bool.and_eq_true, List.contains_eq_mem, decide_eq_true_eq, not_and]
  intro hused htake
  -- the name stands among the first `i` ones and at position `i`
  have hbefore : 0 < (names.take i).count name := List.count_pos_iff.mpr htake
  have hbehind : 0 < (names.drop i).count name :=
    List.count_pos_iff.mpr (List.mem_of_getElem? (i := 0) (by simpa using hget))
  have hsum : names.count name = (names.take i).count name + (names.drop i).count name := by
    rw [← List.count_append, List.take_append_drop]
  have := h name hused
  omega

/-- A column whose name is not repeated is found by its name. -/
lemma lookup_zip (hcount : names.count name ≤ 1) (hmem : (name, text) ∈ names.zip texts) :
    (names.zip texts).lookup name = some text := by
  induction names generalizing texts with
  | nil => simp at hmem
  | cons first names ih =>
    cases texts with
    | nil => simp at hmem
    | cons shown texts =>
      rw [List.zip_cons_cons] at hmem ⊢
      by_cases hfirst : name = first
      · subst hfirst
        -- no column behind the first one has its name
        have hbehind : name ∉ names := by
          rw [List.count_cons_self] at hcount
          exact List.count_eq_zero.mp (by omega)
        rcases List.mem_cons.mp hmem with heq | hmem
        · cases heq
          exact List.lookup_cons_self
        · exact absurd (List.of_mem_zip hmem).1 hbehind
      · have hrest : (name, text) ∈ names.zip texts := by
          rcases List.mem_cons.mp hmem with heq | hmem
          · cases heq
            contradiction
          · exact hmem
        rw [List.lookup_cons, beq_false_of_ne hfirst]
        rw [List.count_cons_of_ne (Ne.symm hfirst)] at hcount
        exact ih hcount hrest

/-- The texts of a row show the account under the names of the columns. -/
structure Shows (names texts : List String) (account : Account) : Prop where
  length_eq : texts.length = names.length
  id_mem : ("id", account.id.text) ∈ names.zip texts
  balance_mem : ("balance", account.balance.toString) ∈ names.zip texts
  currency_mem : ("currency", account.currency.code) ∈ names.zip texts

lemma recordOf_of_shows (hnames : UsesColumnsOnce names) (h : Shows names texts account) :
    recordOf (some names) texts = .ok account.record := by
  have hcolumn {name text : String} (hname : name ∈ columnNames)
      (hmem : (name, text) ∈ names.zip texts) : column names texts name = .ok text := by
    rw [column, lookup_zip (hnames name hname) hmem]
  rw [recordOf, repeatedColumn?_eq_none hnames, hcolumn (by decide) h.id_mem,
    hcolumn (by decide) h.balance_mem, hcolumn (by decide) h.currency_mem]
  rfl

/-! ## Tables -/

/-- The fields of a row show the account. -/
def ShowsIn (names : List String) (account : Account) (fields : List (List UInt8)) : Prop :=
  ∃ texts, Shows names texts account ∧ List.Forall₂ HoldsText texts fields

/-- The bytes are a table of the accounts: a row of names, and a row for each account. -/
def Tabulates (accounts : List Account) (bytes : List UInt8) : Prop :=
  ∃ names header rows, UsesColumnsOnce names ∧ List.Forall₂ HoldsText names header ∧
    List.Forall₂ (ShowsIn names) accounts rows ∧ Csv.Writes (header :: rows) bytes

lemma accountOf_of_showsIn {row : Csv.Row} {before : ℕ} (hnames : UsesColumnsOnce names)
    (h : ShowsIn names account row.fields) (hbalance : account.balance.NonNegative) :
    accountOf names.length (some names) before row = .ok account.unsignZero := by
  obtain ⟨texts, hshows, htexts⟩ := h
  have hsize : row.fields.length = names.length := htexts.length_eq.symm.trans hshows.length_eq
  rw [accountOf, if_neg (not_not.mpr hsize), readFields_of_holdsText htexts]
  simp only [bind, Except.bind, recordOf_of_shows hnames hshows, Except.mapError,
    AccountRecord.account_record hbalance]

lemma accountsOf_of_showsIn {rows : List Csv.Row} {before : ℕ} (hnames : UsesColumnsOnce names)
    (h : List.Forall₂ (ShowsIn names) accounts (rows.map Csv.Row.fields))
    (hbalances : ∀ a ∈ accounts, a.balance.NonNegative) :
    accountsOf names.length (some names) before rows = .ok (accounts.map Account.unsignZero) := by
  induction rows generalizing accounts before with
  | nil =>
    cases h
    rfl
  | cons row rows ih =>
    cases h with
    | cons hrow hrows =>
      obtain ⟨hbalance, hbalances⟩ := List.forall_mem_cons.mp hbalances
      simp only [accountsOf, accountOf_of_showsIn hnames hrow hbalance, ih hrows hbalances, bind,
        Except.bind]
      rfl

/-- The accounts of a table are read, in their order, save for the sign of a zero. -/
theorem read_of_tabulates (h : Tabulates accounts bytes)
    (hbalances : ∀ a ∈ accounts, a.balance.NonNegative) :
    read bytes = .ok (accounts.map Account.unsignZero) := by
  obtain ⟨names, header, rows, hnames, hheader, hrows, hwrites⟩ := h
  obtain ⟨first, others, hrowsOf, rfl, rfl⟩ :=
    List.map_eq_cons_iff.mp (Csv.map_fields_rowsOf hwrites)
  have hsize : first.fields.length = names.length := hheader.length_eq.symm
  rw [read, hrowsOf]
  simp only [mapM_readField_of_holdsText hheader, Except.toOption, hsize]
  exact accountsOf_of_showsIn hnames hrows hbalances

/-- No account of a table has debts. -/
theorem nonNegative_of_read (h : read bytes = .ok accounts) :
    ∀ a ∈ accounts, a.balance.NonNegative := by
  have hrows {size before : ℕ} {names : Option (List String)} {rows : List Csv.Row}
      {accounts : List Account} (h : accountsOf size names before rows = .ok accounts) :
      ∀ a ∈ accounts, a.balance.NonNegative := by
    induction rows generalizing before accounts with
    | nil =>
      cases h
      simp
    | cons row rows ih =>
      obtain ⟨account, haccount, h⟩ := bind_eq_ok_iff.mp h
      obtain ⟨others, hothers, h⟩ := bind_eq_ok_iff.mp h
      cases h
      refine List.forall_mem_cons.mpr ⟨?_, ih hothers⟩
      unfold accountOf at haccount
      split at haccount
      · cases haccount
      · obtain ⟨texts, -, haccount⟩ := bind_eq_ok_iff.mp haccount
        obtain ⟨record, -, haccount⟩ := bind_eq_ok_iff.mp haccount
        cases hrecord : record.account with
        | error fault =>
          rw [hrecord] at haccount
          cases haccount
        | ok read =>
          rw [hrecord] at haccount
          cases haccount
          exact (AccountRecord.read_balance hrecord).2
  unfold read at h
  split at h
  · cases h
    simp
  · exact hrows h

/-! ## Written tables -/

/-- The characters in the fields of a table that is written. -/
def isFieldChar (c : Char) : Bool := AccountId.isAllowed c || c == '_'

/-- The texts of a row that is written. -/
def Printed (texts : List String) : Prop :=
  texts ≠ [] ∧ ∀ text ∈ texts, text.toList ≠ [] ∧ text.toList.all isFieldChar = true

/-- The field that a text is written as. -/
def fieldBytes (text : String) : List UInt8 := Text.Utf8.encode text.toList

lemma isBlank_of_isFieldChar {c : Char} (h : isFieldChar c = true) : Text.isBlank c = false := by
  rw [isFieldChar, Bool.or_eq_true, beq_iff_eq] at h
  rcases h with h | rfl
  · exact (Instruction.isWordChar_of_isAllowed h).isBlank
  · rfl

lemma toNat_lt_of_isFieldChar {c : Char} (h : isFieldChar c = true) : c.toNat < 128 := by
  rw [isFieldChar, Bool.or_eq_true, beq_iff_eq] at h
  rcases h with h | rfl
  · have := (Instruction.isWordChar_of_isAllowed h).1
    omega
  · decide

lemma holdsText_fieldBytes (h : text.toList.all isFieldChar = true) :
    HoldsText text (fieldBytes text) :=
  ⟨text.toList, rfl,
    Text.trim_of_free fun c hc => isBlank_of_isFieldChar (List.all_eq_true.mp h c hc)⟩

/-- No quotes are needed. -/
lemma writesField_fieldBytes (h : text.toList.all isFieldChar = true) :
    Csv.WritesField (fieldBytes text) (fieldBytes text) := by
  have hfree {b : UInt8} (hb : b.toNat < 128) (hchar : isFieldChar (Char.ofNat b.toNat) = false) :
      b ∉ fieldBytes text := by
    intro hmem
    rw [List.all_eq_true.mp h _ (Text.Utf8.ofNat_mem_of_mem_encode hb hmem)] at hchar
    cases hchar
  refine .plain ?_ fun b hb => ⟨?_, ?_⟩
  · intro hhead
    exact hfree (b := Csv.quote) (by decide) (by decide) (List.mem_of_head? hhead)
  · rintro rfl
    exact hfree (by decide) (by decide) hb
  · rw [Csv.isLineEnd, Bool.or_eq_false_iff, beq_eq_false_iff_ne, beq_eq_false_iff_ne]
    constructor
    · rintro rfl
      exact hfree (by decide) (by decide) hb
    · rintro rfl
      exact hfree (by decide) (by decide) hb

lemma writesRow_intercalate (h : Printed texts) :
    Csv.WritesRow (texts.map fieldBytes) (Text.Utf8.encode (",".intercalate texts).toList) ∧
      Text.Utf8.encode (",".intercalate texts).toList ≠ [] := by
  rw [String.toList_intercalate]
  obtain ⟨hne, htexts⟩ := h
  induction texts with
  | nil => contradiction
  | cons text texts ih =>
    obtain ⟨⟨htext, hchars⟩, hothers⟩ := List.forall_mem_cons.mp htexts
    have hfield := writesField_fieldBytes hchars
    have hbytes : fieldBytes text ≠ [] := Text.Utf8.encode_ne_nil htext
    cases texts with
    | nil =>
      rw [List.map_singleton, List.map_singleton, List.intercalate_singleton]
      exact ⟨.last hfield, hbytes⟩
    | cons next texts =>
      obtain ⟨hrow, -⟩ := ih (List.cons_ne_nil _ _) hothers
      have hsplit :
          Text.Utf8.encode (",".toList.intercalate ((text :: next :: texts).map String.toList)) =
            fieldBytes text ++ Csv.comma ::
              Text.Utf8.encode (",".toList.intercalate ((next :: texts).map String.toList)) := by
        rw [List.map_cons, List.map_cons, List.intercalate_cons_cons, List.append_assoc,
          Text.Utf8.encode_append]
        rfl
      rw [hsplit]
      exact ⟨.cons hfield hrow, List.append_ne_nil_of_left_ne_nil hbytes _⟩

/-- Rows that are written one after another are a table. -/
lemma writesRows_rowChars {rows : List (List String)} (h : ∀ texts ∈ rows, Printed texts) :
    Csv.WritesRows (rows.map (·.map fieldBytes)) (Text.Utf8.encode (rows.flatMap rowChars)) := by
  induction rows with
  | nil => exact .nil (by simp)
  | cons texts rows ih =>
    obtain ⟨htexts, hrows⟩ := List.forall_mem_cons.mp h
    obtain ⟨hrow, hbytes⟩ := writesRow_intercalate htexts
    have hgap : ∀ b ∈ ([] : List UInt8), Csv.isLineEnd b = true := by simp
    rw [List.flatMap_cons, rowChars, Text.Utf8.encode_append, Text.Utf8.encode_append,
      List.append_assoc]
    exact .cons hgap hrow hbytes (by decide) (ih hrows)

/-- A row that is written does not begin with a byte order mark. -/
lemma not_byteOrderMark_prefix (h : Printed texts) (rest : List UInt8) :
    ¬ Csv.byteOrderMark <+: Text.Utf8.encode (rowChars texts) ++ rest := by
  obtain ⟨hne, htexts⟩ := h
  obtain ⟨text, texts, rfl⟩ := List.exists_cons_of_ne_nil hne
  obtain ⟨⟨htext, hchars⟩, -⟩ := List.forall_mem_cons.mp htexts
  obtain ⟨c, cs, hcs⟩ := List.exists_cons_of_ne_nil htext
  have hc : c.toNat < 128 := by
    rw [hcs, List.all_cons, Bool.and_eq_true] at hchars
    exact toNat_lt_of_isFieldChar hchars.1
  obtain ⟨behind, hrow⟩ : ∃ behind, rowChars (text :: texts) = c :: behind := by
    rw [rowChars, String.toList_intercalate]
    cases texts with
    | nil => exact ⟨_, by rw [List.map_singleton, List.intercalate_singleton, hcs]; rfl⟩
    | cons next texts =>
      rw [List.map_cons, List.map_cons, List.intercalate_cons_cons, hcs]
      exact ⟨_, rfl⟩
  rcases Text.Utf8.utf8EncodeChar_cases c with ⟨-, hbytes⟩ | ⟨hlarge, -⟩
  · rw [hrow, Text.Utf8.encode_cons, hbytes]
    rintro ⟨unmarked, hmark⟩
    have hfirst := congrArg (fun bytes => bytes.head?.map UInt8.toNat) hmark
    simp only [Csv.byteOrderMark, List.cons_append, List.head?_cons, Option.map_some,
      Option.some.injEq, Text.Utf8.toNat_ofNat (show c.toNat < 256 by omega)] at hfirst
    have hmarkByte : (0xEF : UInt8).toNat = 239 := rfl
    omega
  · omega

/-- A table is written by writing its rows one after another. -/
theorem tabulates_rowChars {rows : List (List String)} (hnames : UsesColumnsOnce names)
    (hprinted : ∀ texts ∈ names :: rows, Printed texts)
    (hshows : List.Forall₂ (fun account texts => Shows names texts account) accounts rows) :
    Tabulates accounts (Text.Utf8.encode ((names :: rows).flatMap rowChars)) := by
  obtain ⟨hheader, hrows⟩ := List.forall_mem_cons.mp hprinted
  have hholds {texts : List String} (h : Printed texts) :
      List.Forall₂ HoldsText texts (texts.map fieldBytes) :=
    List.forall₂_map_right_iff.mpr
      (List.forall₂_same.mpr fun text htext => holdsText_fieldBytes (h.2 text htext).2)
  have hfields : List.Forall₂ (ShowsIn names) accounts (rows.map (·.map fieldBytes)) := by
    clear hprinted
    induction hshows with
    | nil => exact .nil
    | cons hfirst _ ih =>
      obtain ⟨hrow, hrows⟩ := List.forall_mem_cons.mp hrows
      exact .cons ⟨_, hfirst, hholds hrow⟩ (ih hrows)
  have hwrites := writesRows_rowChars hprinted
  rw [List.map_cons] at hwrites
  refine ⟨names, _, _, hnames, hholds hheader, hfields, .inl ⟨hwrites, ?_⟩⟩
  rw [List.flatMap_cons, Text.Utf8.encode_append]
  exact not_byteOrderMark_prefix hheader _

/-- The texts of the row of an account. -/
def snapshotTexts (s : Snapshot) : List String :=
  [s.id.text, s.balance.toString, s.balanceBefore.toString, s.currency.code]

lemma printed_snapshotTexts (s : Snapshot) : Printed (snapshotTexts s) := by
  have hdecimal (a : Decimal) : a.toString.toList ≠ [] ∧
      a.toString.toList.all isFieldChar = true := by
    rw [Decimal.toString, String.toList_ofList, List.all_eq_true]
    refine ⟨a.toChars_ne_nil, fun c hc => ?_⟩
    rcases Decimal.mem_toChars c hc with hdigit | rfl | rfl
    · rw [isFieldChar, Instruction.isAllowed_of_isDigit hdigit, Bool.true_or]
    · decide
    · decide
  have hid : s.id.text.toList.all isFieldChar = true := by
    refine List.all_eq_true.mpr fun c hc => ?_
    rw [isFieldChar, List.all_eq_true.mp s.id.allowed c hc, Bool.true_or]
  have hcode : s.currency.code.toList ≠ [] := by
    have := s.currency.length_eq
    intro hnil
    rw [hnil] at this
    cases this
  have hcapitals : s.currency.code.toList.all isFieldChar = true := by
    refine List.all_eq_true.mpr fun c hc => ?_
    have hcapital := List.all_eq_true.mp s.currency.capitals c hc
    rw [isFieldChar, Instruction.isAllowed_of_isUpper hcapital, Bool.true_or]
  refine ⟨List.cons_ne_nil _ _, ?_⟩
  simp only [snapshotTexts, List.forall_mem_cons]
  exact ⟨⟨s.id.nonempty, hid⟩, hdecimal _, hdecimal _, ⟨hcode, hcapitals⟩, by simp⟩

/-- The table that is written of accounts as a transfer left them is a table of these accounts. -/
theorem tabulates_write (snapshots : List Snapshot) :
    Tabulates (snapshots.map Snapshot.account) (Text.Utf8.encode (write snapshots)) := by
  let names := ["id", "balance", "balance_before", "currency"]
  have hnames : Printed names := ⟨List.cons_ne_nil _ _, by decide⟩
  have hprinted : ∀ texts ∈ names :: snapshots.map snapshotTexts, Printed texts := by
    refine List.forall_mem_cons.mpr ⟨hnames, List.forall_mem_map.mpr fun s _ => ?_⟩
    exact printed_snapshotTexts s
  have hshows (s : Snapshot) : Shows names (snapshotTexts s) s.account :=
    ⟨rfl, by simp [names, snapshotTexts, Snapshot.account],
      by simp [names, snapshotTexts, Snapshot.account],
      by simp [names, snapshotTexts, Snapshot.account]⟩
  have hwrite : write snapshots = (names :: snapshots.map snapshotTexts).flatMap rowChars := by
    rw [List.flatMap_cons, List.flatMap_map]
    rfl
  rw [hwrite]
  refine tabulates_rowChars (by decide) hprinted ?_
  rw [List.forall₂_map_left_iff, List.forall₂_map_right_iff]
  exact List.forall₂_same.mpr fun s _ => hshows s

end AccountTable

end Remittance
