import MailSearch.Proofs.Record.Mail
import MailSearch.Proofs.Token

/-!
# Tokens of joined texts

A space ends every run of token characters. It also ends a word for lower case: a capital sigma in
front of it finds no cased character ahead, and what stands behind it begins as a text does. So two
texts with a space between them are cut into the tokens of the one and those of the other, and
tokens that are joined by spaces are cut into the same tokens again.
-/

namespace MailSearch

namespace Unicode

/-- The first character decides what lies ahead, unless it is passed over. -/
theorem casedAhead_cons (c : Char) (cs : List Char) :
    casedAhead (c :: cs) = if isCaseIgnorable c then casedAhead cs else isCased c := by
  unfold casedAhead
  by_cases hc : isCaseIgnorable c
  · rw [List.dropWhile_cons_of_pos hc, if_pos hc]
  · rw [List.dropWhile_cons_of_neg hc, if_neg hc]

/-- No cased character is seen ahead behind a space. -/
theorem casedAhead_append_space (cs ds : List Char) :
    casedAhead (cs ++ ' ' :: ds) = casedAhead cs := by
  induction cs with
  | nil => rfl
  | cons c cs ih => rw [List.cons_append, casedAhead_cons, casedAhead_cons, ih]

/-- What stands in front of a space and what stands behind it are taken to lower case apart from
each other. -/
theorem lowerFrom_append_space (afterCased : Bool) (cs ds : List Char) :
    lowerFrom afterCased (cs ++ ' ' :: ds) = lowerFrom afterCased cs ++ ' ' :: lowerChars ds := by
  induction cs generalizing afterCased with
  | nil => rfl
  | cons c cs ih =>
    rw [List.cons_append, lowerFrom, lowerFrom, casedAhead_append_space, ih, List.append_assoc]

section Runs

variable {α : Type} {inClass : α → Bool} {y : α}

private theorem runsFrom_append_cons (hy : inClass y = false) (run xs ys : List α) :
    runsFrom inClass run (xs ++ y :: ys) = runsFrom inClass run xs ++ runs inClass ys := by
  induction xs generalizing run with
  | nil =>
    have hskip : runsFrom inClass run (y :: ys) = closeRun run ++ runsFrom inClass [] ys :=
      if_neg (by simp [hy])
    rw [List.nil_append, hskip]
    rfl
  | cons x xs ih =>
    rw [List.cons_append, runsFrom, runsFrom]
    split
    · exact ih (x :: run)
    · rw [ih [], List.append_assoc]

/-- What is no member of a class parts the runs in front of it from those behind it. -/
theorem runs_append_cons (hy : inClass y = false) (xs ys : List α) :
    runs inClass (xs ++ y :: ys) = runs inClass xs ++ runs inClass ys :=
  runsFrom_append_cons hy [] xs ys

end Runs

end Unicode

/-- The tokens of two texts with a space between them are those of both. -/
theorem tokenize_append_space (a b : String) :
    tokenize (a ++ " " ++ b) = tokenize a ++ tokenize b := by
  have hchars : (a ++ " " ++ b).toList = a.toList ++ ' ' :: b.toList := by simp
  have hspace : isTokenCharacter ' ' = false := by decide +kernel
  have hruns : tokenRuns (a ++ " " ++ b).toList = tokenRuns a.toList ++ tokenRuns b.toList := by
    rw [tokenRuns, hchars, Unicode.lowerChars, Unicode.lowerFrom_append_space,
      Unicode.runs_append_cons hspace, List.filter_append]
    rfl
  rw [tokenize, hruns, List.map_append]
  rfl

/-- The tokens of several texts that are joined by spaces are those of each text in turn. -/
theorem tokenize_intercalate (texts : List String) :
    tokenize (" ".intercalate texts) = texts.flatMap tokenize := by
  induction texts with
  | nil => rfl
  | cons text texts ih =>
    cases texts with
    | nil => rw [String.intercalate_singleton, List.flatMap_singleton]
    | cons next texts =>
      rw [String.intercalate_cons_cons, tokenize_append_space, ih]
      rfl

/-- Tokens are cut into themselves. -/
theorem flatMap_tokenize_eq_self {ts : List String} (h : ∀ t ∈ ts, IsToken t) :
    ts.flatMap tokenize = ts := by
  induction ts with
  | nil => rfl
  | cons t ts ih =>
    obtain ⟨ht, hts⟩ := List.forall_mem_cons.mp h
    rw [List.flatMap_cons, ht.tokenize_eq, ih hts, List.singleton_append]

/-- A token has at least two characters and is no stop word. -/
theorem IsToken.two_le_length {t : String} (h : IsToken t) : 2 ≤ t.length ∧ t ∉ stopWords := by
  have hkept := h.kept
  simp only [isToken, Bool.and_eq_true, decide_eq_true_eq, Bool.not_eq_true', String.ofList_toList,
    String.length_toList, List.contains_eq_mem, decide_eq_false_iff_not] at hkept
  exact hkept

/-- Two texts with a space between them have the tokens of the first and then those of the second.
A token has at least two characters, is no stop word, and is made of word characters and the
characters of an address. Tokens that are joined by spaces are cut into the same tokens. The tokens
of an email are the first occurrences among the tokens of its five texts joined by spaces, and a
body that is missing counts as an empty one. -/
theorem tokens_of_joined_texts :
    (∀ a b, tokenize (a ++ " " ++ b) = tokenize a ++ tokenize b) ∧
    (∀ text, ∀ t ∈ tokenize text, 2 ≤ t.length ∧ t ∉ stopWords ∧
      ∀ c ∈ t.toList, Unicode.isWordCharacter c ∨ c ∈ ['@', '.', '-']) ∧
    (∀ text, tokenize (" ".intercalate (tokenize text)) = tokenize text) ∧
    (∀ subject snippet name sender body, emailTokens subject snippet name sender body =
      (tokenize (" ".intercalate [subject, snippet, name, sender, body])).eraseDups) ∧
    ∀ mail r, Record.ofMailFields mail = .ok r → (Record.get mail "body").isNull →
      r.tokens =
        (tokenize (" ".intercalate [r.subject, r.snippet, r.senderName, r.sender, ""])).eraseDups := by
  have hemail (subject snippet name sender body : String) :
      emailTokens subject snippet name sender body =
        (tokenize (" ".intercalate [subject, snippet, name, sender, body])).eraseDups := by
    rw [tokenize_intercalate]
    rfl
  refine ⟨tokenize_append_space, fun text t ht ↦ ?_, fun text ↦ ?_, hemail, fun mail r h hbody ↦ ?_⟩
  · have htoken := isToken_of_mem_tokenize ht
    refine ⟨htoken.two_le_length.1, htoken.two_le_length.2, fun c hc ↦ ?_⟩
    simpa [isTokenCharacter, or_assoc] using htoken.chars c hc
  · rw [tokenize_intercalate]
    exact flatMap_tokenize_eq_self fun t ht ↦ isToken_of_mem_tokenize ht
  · obtain ⟨body, hread⟩ := Record.ofMailFields_eq_ok_iff.mp h
    have hmissing : Record.pick mail ["body"] = .null := by
      rw [Record.pick, if_pos hbody]
      rfl
    have hempty := hread.bodyText
    rw [hmissing] at hempty
    obtain rfl : body = "" := (Except.ok.inj hempty).symm
    rw [hread.tokens, hemail]

/-- A sigma at the end of a word, a dotted capital whose dot becomes a separator, and an email
without a body whose texts share a token. -/
theorem tokens_of_joined_texts_greek :
    let text := "\u039F\u0394\u039F\u03A3 the \u0130zmir"
    let mail : List (String × Value) :=
      [("id", .text "1"), ("subject", .text "Plan B"), ("snippet", .text "the plan"),
        ("sender", .text "Ada <ada@x.org>"), ("body", .null)]
    tokenize text = ["\u03BF\u03B4\u03BF\u03C2", "zmir"] ∧
      tokenize (text ++ " " ++ "re-plan") = ["\u03BF\u03B4\u03BF\u03C2", "zmir", "re-plan"] ∧
      (2 ≤ "zmir".length ∧ "zmir" ∉ stopWords ∧
        ∀ c ∈ "zmir".toList, Unicode.isWordCharacter c ∨ c ∈ ['@', '.', '-']) ∧
      ∃ r, Record.ofMailFields mail = .ok r ∧ (Record.get mail "body").isNull ∧
        r.tokens = ["plan", "ada", "ada@x.org"] := by
  intro text mail
  obtain ⟨happend, htokens, -, -, hrecords⟩ := tokens_of_joined_texts
  have htext : tokenize text = ["\u03BF\u03B4\u03BF\u03C2", "zmir"] := by decide +kernel
  have hplan : tokenize "re-plan" = ["re-plan"] := by decide +kernel
  refine ⟨htext, by rw [happend, htext, hplan]; rfl, htokens text "zmir" (by rw [htext]; simp), ?_⟩
  obtain ⟨r, hr⟩ : ∃ r, Record.ofMailFields mail = .ok r := ⟨_, rfl⟩
  refine ⟨r, hr, rfl, ?_⟩
  rw [hrecords mail r hr rfl]
  obtain rfl := Except.ok.inj hr
  decide +kernel

end MailSearch
