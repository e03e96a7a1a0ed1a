import AskTables.Conversion
import AskTables.Dataset.Sample
import AskTables.Proofs.Phrase.Verdict

/-!
# Questions that sort by a keyword

A rule makes text for every question it recognises, and nearly all of it is a statement.  The one
exception is a listing that is sorted by a column which has the name of a reserved keyword: the
pattern takes every name for a column, the grammar does not.  `convert_eq_invalid_iff` says that
exactly these questions fail for their statement.

The text of such a question passes the guard, so it does reach the reader of statements.
-/

namespace AskTables

open Grammar

namespace Form

/-! ## The guard -/

/-- No reserved keyword has a command in it. -/
theorem not_truncateWord_infix_reserved : ∀ k ∈ Keyword.reserved,
    Text.occursIn Guard.truncateWord k.letters = false := by
  decide

/-- A listing sorted by a reserved keyword passes the guard. -/
theorem check_fill_of_reserved {f : Form} {r : Rule} (hf : f.Suits r) (hframe : f.Framed r.template)
    {ws : List String} {st : Statement} (h : f.Gives ws st) (hres : f.Reserved ws) :
    Guard.check (r.template.fill ws) = .ok (r.template.fill ws) := by
  refine check_fill_of_not_mentions hf hframe h ?_
  obtain ⟨rfl, hres⟩ := hres
  obtain ⟨k, hk, hspells⟩ := List.any_eq_true.1 hres
  have hcolumn : (captureAt ws 1).toList.map Char.toLower = k.letters := by
    simpa [Keyword.spells] using hspells
  rintro ⟨w, hw, hsub⟩
  cases hw
  rw [hcolumn, ← Text.occursIn_iff, not_truncateWord_infix_reserved k hk] at hsub
  cases hsub

/-! ## Questions -/

theorem formOf?_eq_sorted {name : String} (h : formOf? name = some .sorted) :
    name = "sorted_listing" := by
  unfold formOf? at h
  split at h <;> first | rfl | cases h

end Form

namespace Converter

/-- A question fails for its statement if its text passes the guard and is no statement. -/
theorem convert_eq_invalid_iff {c : Converter} {text : String} {e : ParseError} :
    c.convert text = .error (.query (.invalid e)) ↔ ∃ t sql, c.library.interpret text = .ok t ∧
      Guard.check t.sql = .ok sql ∧ Statement.parse sql = .error e := by
  unfold convert Query.answer Query.statement
  cases hint : c.library.interpret text with
  | error n => simp
  | ok t =>
      cases hcheck : Guard.check t.sql with
      | error command => simp [hcheck]
      | ok sql =>
          cases hparse : Statement.parse sql with
          | error e' => simp [hcheck, hparse]
          | ok st =>
              cases hrun : st.run c.dataset with
              | error m => simp [hcheck, hparse, hrun]
              | ok rows => simp [hcheck, hparse, hrun]

/-- A question fails for its statement exactly if the listing rule wins and the question names a
reserved keyword as the column to sort by. -/
theorem invalid_iff_sorted_by_reserved (d : Dataset) (text : String) :
    (∃ e, (Converter.ofDataset d).convert text = .error (.query (.invalid e))) ↔
      ∃ r ws, Library.builtin.Wins text r ws ∧ r.name = "sorted_listing" ∧
        isReserved (captureAt ws 1).toList = true := by
  constructor
  · rintro ⟨e, he⟩
    obtain ⟨t, sql, ht, hcheck, hparse⟩ := convert_eq_invalid_iff.1 he
    obtain ⟨r, ws, hwins, rfl⟩ := Library.interpret_eq_ok_iff.1 ht
    obtain ⟨f, hf, hs⟩ := suits_of_mem hwins.mem
    obtain ⟨st, hgives⟩ := Form.gives_of_recognize? hs hwins.recognizes
    by_cases hres : f.Reserved ws
    · obtain ⟨rfl, hreserved⟩ := hres
      exact ⟨r, ws, hwins, Form.formOf?_eq_sorted hf, hreserved⟩
    · rw [Guard.check_eq_ok hcheck, Form.trim_fill hs hgives,
        Form.parse_fill hs hgives hres] at hparse
      cases hparse
  · rintro ⟨r, ws, hwins, hname, hreserved⟩
    obtain ⟨f, hf, hs⟩ := suits_of_mem hwins.mem
    obtain ⟨st, hgives⟩ := Form.gives_of_recognize? hs hwins.recognizes
    have hres : f.Reserved ws := by
      rw [hname] at hf
      cases hf
      exact ⟨rfl, hreserved⟩
    obtain ⟨e, he⟩ := Form.parse_fill_of_reserved hs hgives hres
    exact ⟨e, convert_eq_invalid_iff.2 ⟨_, _, Library.interpret_eq_ok_iff.2 ⟨r, ws, hwins, rfl⟩,
      Form.check_fill_of_reserved hs (framed_of_mem hwins.mem hf) hgives hres, he⟩⟩

/-- `order` is a name to the listing rule and a keyword to the grammar. -/
theorem invalid_sorted_by_order : ∃ e, (Converter.ofDataset Dataset.sample).convert
    "list orders sorted by order" = .error (.query (.invalid e)) := by
  have ht : Library.builtin.interpret "list orders sorted by order" =
      .ok ⟨"sorted_listing", "SELECT * FROM orders ORDER BY order;"⟩ :=
    eq_ok_of_toOption (by decide +kernel)
  have hcheck : Guard.check "SELECT * FROM orders ORDER BY order;" =
      .ok "SELECT * FROM orders ORDER BY order;" := eq_ok_of_toOption (by decide +kernel)
  have hparse : ∃ e, Statement.parse (String.ofList "SELECT * FROM orders ORDER BY order;".toList) =
      .error e := Statement.parse_of_read (by decide +kernel)
  rw [String.ofList_toList] at hparse
  obtain ⟨e, he⟩ := hparse
  exact ⟨e, convert_eq_invalid_iff.2 ⟨_, _, ht, hcheck, he⟩⟩

end Converter

end AskTables
