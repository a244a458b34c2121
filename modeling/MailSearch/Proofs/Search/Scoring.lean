import MailSearch.Proofs.Distinct
import MailSearch.Proofs.Search.Findable
import MailSearch.Proofs.Similarity
import Mathlib.Algebra.Ring.Nat
import Mathlib.Data.List.Infix

/-!
# What a record scores

Every token that is sought is worth points by itself, so the points of a record are a sum and the
order of the tokens does not matter. The highlights are notes that are made one after the other,
each of a place and a token: after any notes they hold every place that was noted, and with it the
distinct tokens that were noted there, both in the order of their first note.
-/

namespace MailSearch

/-- What occurs in a list is an infix of it. -/
theorem occursIn_iff {α : Type} [BEq α] [LawfulBEq α] {xs ys : List α} :
    occursIn xs ys ↔ xs <:+: ys := by
  induction ys with
  | nil => simp [occursIn]
  | cons y ys ih =>
    rw [occursIn, Bool.or_eq_true, ih, List.isPrefixOf_iff_prefix, List.infix_cons_iff]

/-- A text is within another if its characters are an infix. -/
theorem isWithin_iff {part whole : String} :
    isWithin part whole ↔ part.toList <:+: whole.toList := occursIn_iff

/-- Places have different names. -/
theorem Place.name_injective : Function.Injective Place.name := by
  intro a b h
  cases a <;> cases b <;> first | rfl | exact absurd h (by decide)

section Notes

variable {place : Place} {token : String}

/-- The distinct tokens that were noted in a place, in the order of their first notes. -/
def tokensNoted (notes : List (Place × String)) (place : Place) : List String :=
  ((notes.filter (·.1 = place)).map Prod.snd).eraseDups

/-- The entries that notes lead to: each place that was noted, in the order of their first notes,
with the tokens that were noted there. -/
def noted (notes : List (Place × String)) : List Highlight :=
  (notes.map Prod.fst).eraseDups.map fun place ↦ ⟨place, tokensNoted notes place⟩

/-- Noting a token changes the tokens of its place, if the token is new there, and brings the place
behind the others, if that is new. -/
theorem highlight_map {places : List Place} (hplaces : places.Nodup)
    {found found' : Place → List String} (hother : ∀ p, p ≠ place → found' p = found p)
    (hplace : found' place =
      if token ∈ found place then found place else found place ++ [token])
    (hnew : place ∉ places → found place = []) :
    highlight place token (places.map fun p ↦ ⟨p, found p⟩) =
      (if place ∈ places then places else places ++ [place]).map fun p ↦ ⟨p, found' p⟩ := by
  induction places with
  | nil => simp [highlight, hplace, hnew]
  | cons p places ih =>
    obtain ⟨hp, hplaces⟩ := List.nodup_cons.mp hplaces
    rw [List.map_cons, highlight]
    by_cases heq : p = place
    · subst heq
      have hrest : ∀ q ∈ places, (⟨q, found q⟩ : Highlight) = ⟨q, found' q⟩ := by
        intro q hq
        rw [hother q fun he ↦ hp (he ▸ hq)]
      rw [if_pos rfl, if_pos List.mem_cons_self, List.map_cons, List.map_congr_left hrest, hplace]
      by_cases htoken : token ∈ found p <;> simp [htoken]
    · have hmem : place ∈ p :: places ↔ place ∈ places := by simp [Ne.symm heq]
      rw [if_neg heq, ih hplaces fun hnot ↦ hnew (hmem.not.mpr hnot), ← hother p heq]
      by_cases hin : place ∈ places <;> simp [hin, hmem]

/-- One more note changes the entries as noting its token does. -/
theorem noted_concat (notes : List (Place × String)) (place : Place) (token : String) :
    noted (notes ++ [(place, token)]) = highlight place token (noted notes) := by
  have hother : ∀ p, p ≠ place →
      tokensNoted (notes ++ [(place, token)]) p = tokensNoted notes p := by
    intro p hp
    simp [tokensNoted, List.filter_append, Ne.symm hp]
  have hplace : tokensNoted (notes ++ [(place, token)]) place =
      if token ∈ tokensNoted notes place then tokensNoted notes place
      else tokensNoted notes place ++ [token] := by
    have hbehind : ((notes ++ [(place, token)]).filter (·.1 = place)).map Prod.snd =
        (notes.filter (·.1 = place)).map Prod.snd ++ [token] := by simp [List.filter_append]
    rw [tokensNoted, hbehind, eraseDups_concat]
    simp only [tokensNoted, List.mem_eraseDups]
  have hnew : place ∉ (notes.map Prod.fst).eraseDups → tokensNoted notes place = [] := by
    intro hnot
    have hnone : notes.filter (·.1 = place) = [] := by
      rw [List.filter_eq_nil_iff]
      intro note hnote hsame
      apply hnot
      rw [List.mem_eraseDups, List.mem_map]
      exact ⟨note, hnote, of_decide_eq_true hsame⟩
    rw [tokensNoted, hnone]
    rfl
  rw [noted, noted, highlight_map (nodup_eraseDups _) hother hplace hnew, List.map_append,
    List.map_singleton, eraseDups_concat]
  simp only [List.mem_eraseDups]

/-- Making notes one after the other leads to their entries. -/
theorem foldl_highlight (notes : List (Place × String)) :
    notes.foldl (fun hs note ↦ highlight note.1 note.2 hs) [] = noted notes := by
  induction notes using List.reverseRecOn with
  | nil => rfl
  | append_singleton notes note ih =>
    rw [List.foldl_append, ih, noted_concat]
    rfl

end Notes

/-- A token stands in a place of a record: in the subject, or in the sender or the sender's name,
when these are in lower case. -/
def Place.Shows (place : Place) (r : Record) (token : String) : Prop :=
  match place with
  | subject => token.toList <:+: (Unicode.lowercase r.subject).toList
  | sender => token.toList <:+: (Unicode.lowercase r.sender).toList ∨
      token.toList <:+: (Unicode.lowercase r.senderName).toList

instance (place : Place) (r : Record) (token : String) : Decidable (place.Shows r token) :=
  match place with
  | .subject => inferInstanceAs (Decidable (_ <:+: _))
  | .sender => inferInstanceAs (Decidable (_ ∨ _))

namespace Score

variable {r : Record} {fuzzy : Option Binary64} {token : String}

/-- The places in which a token stands, the subject first. -/
def placesOf (r : Record) (token : String) : List Place :=
  [Place.subject, .sender].filter (·.Shows r token)

/-- The places in which tokens stand, in the order of the first token that stands there, with the
distinct tokens that stand there. -/
def highlighted (r : Record) (tokens : List String) : List Highlight :=
  (tokens.flatMap (placesOf r)).eraseDups.map fun place ↦
    ⟨place, (tokens.filter (place.Shows r ·)).eraseDups⟩

/-- The tokens of a record to which a token is near: the edits between the two are at most a share
of the longer one's length. -/
def nearCount (r : Record) (token : String) (threshold : Binary64) : Nat :=
  r.tokens.countP fun own ↦
    (Binary64.ofRatio (editDistance own token) (max own.length token.length)).le threshold

/-- What a token is worth. -/
def worth (r : Record) (fuzzy : Option Binary64) (token : String) : Nat :=
  (if Place.subject.Shows r token then 10 else 0) + (if Place.sender.Shows r token then 5 else 0) +
    (if token ∈ r.tokens then 2 else 0) + (fuzzy.map (nearCount r token)).getD 0

theorem inSubject_iff : inSubject r token ↔ Place.subject.Shows r token := isWithin_iff

theorem inSender_iff : inSender r token ↔ Place.sender.Shows r token := by
  rw [inSender, Bool.or_eq_true, isWithin_iff, isWithin_iff]
  rfl

section Highlights

/-- The notes that a token makes. -/
def notesOf (r : Record) (token : String) : List (Place × String) :=
  (placesOf r token).map fun place ↦ (place, token)

/-- The highlights of a token are noted place by place. -/
theorem addHighlights_eq (hs : List Highlight) :
    addHighlights r hs token =
      (notesOf r token).foldl (fun hs note ↦ highlight note.1 note.2 hs) hs := by
  simp only [addHighlights, notesOf, placesOf, inSubject_iff, inSender_iff]
  by_cases hsubject : Place.subject.Shows r token <;>
    by_cases hsender : Place.sender.Shows r token <;> simp [hsubject, hsender]

/-- What tokens note in a place are those that stand there. -/
theorem tokensNoted_notesOf (tokens : List String) (place : Place) :
    tokensNoted (tokens.flatMap (notesOf r)) place =
      (tokens.filter (place.Shows r ·)).eraseDups := by
  have hone (token : String) : ((notesOf r token).filter (·.1 = place)).map Prod.snd =
      if place.Shows r token then [token] else [] := by
    cases place <;> by_cases hsubject : Place.subject.Shows r token <;>
      by_cases hsender : Place.sender.Shows r token <;>
        simp [notesOf, placesOf, hsubject, hsender]
  rw [tokensNoted]
  congr 1
  induction tokens with
  | nil => rfl
  | cons token tokens ih =>
    rw [List.flatMap_cons, List.filter_append, List.map_append, hone, ih]
    by_cases hshows : place.Shows r token <;> simp [hshows]

/-- The highlights of a record are what the tokens show in its places. -/
theorem highlights_ofRecord (r : Record) (fuzzy : Option Binary64) (tokens : List String) :
    (ofRecord r fuzzy tokens).highlights = highlighted r tokens := by
  have hnotes : (ofRecord r fuzzy tokens).highlights = noted (tokens.flatMap (notesOf r)) := by
    rw [← foldl_highlight, List.foldl_flatMap]
    simp only [← addHighlights_eq]
    rfl
  have hplaces : (tokens.flatMap (notesOf r)).map Prod.fst = tokens.flatMap (placesOf r) := by
    simp [List.map_flatMap, notesOf, Function.comp_def]
  rw [hnotes, noted, hplaces, highlighted]
  simp only [tokensNoted_notesOf]

end Highlights

section Points

/-- The sum in the library's words. -/
theorem total_eq_sum (ns : List Nat) : total ns = ns.sum := by
  induction ns with
  | nil => rfl
  | cons n ns ih => rw [total_cons, ih, List.sum_cons]

/-- A token is worth its points. -/
theorem tokenScore_eq_worth (hr : ∀ own ∈ r.tokens, IsToken own) (htoken : IsToken token) :
    tokenScore r fuzzy token = worth r fuzzy token := by
  have hsimilar (threshold : Binary64) :
      similarCount r token threshold = nearCount r token threshold := by
    apply List.countP_congr
    intro own hown
    have hne : own ≠ "" := fun hempty ↦ (hr own hown).toList_ne_nil (by simp [hempty])
    exact isSimilar_iff_of_isLower (hr own hown).lower htoken.lower hne
  simp only [tokenScore, worth, inSubject_iff, inSender_iff, List.contains_iff_mem]
  cases fuzzy with
  | none => rfl
  | some threshold =>
    simp only [hsimilar, similarPoints, Nat.one_mul]
    rfl

/-- The points of a record do not depend on the order of the tokens. -/
theorem points_perm {tokens others : List String} (h : others.Perm tokens) :
    (ofRecord r fuzzy others).points = (ofRecord r fuzzy tokens).points :=
  total_perm (h.map _)

end Points

/-- What a record that is read from an email scores for tokens of texts: the points are the sum of
what each token is worth, in whatever order, and the highlights are what the tokens show. There is
at most one entry for the subject and one for the sender, and none is without tokens. -/
theorem ofRecord_of_ofMail {mail : Value} {r : Record} (hmail : Record.ofMail mail = .ok r)
    {tokens : List String} (htokens : ∀ token ∈ tokens, ∃ text, token ∈ tokenize text)
    (fuzzy : Option Binary64) :
    let score := ofRecord r fuzzy tokens
    score.points = (tokens.map (worth r fuzzy)).sum ∧
      (∀ others : List String, others.Perm tokens →
        (ofRecord r fuzzy others).points = score.points) ∧
      score.highlights = highlighted r tokens ∧
      (score.highlights.map (·.place.name)).Nodup ∧ ∀ h ∈ score.highlights, h.found ≠ [] := by
  intro score
  have hhighlights : score.highlights = highlighted r tokens := highlights_ofRecord r fuzzy tokens
  refine ⟨?_, fun _ ↦ points_perm, hhighlights, ?_, ?_⟩
  · have hworth : tokens.map (tokenScore r fuzzy) = tokens.map (worth r fuzzy) := by
      apply List.map_congr_left
      intro token htoken
      obtain ⟨text, htext⟩ := htokens token htoken
      exact tokenScore_eq_worth (Record.isToken_of_ofMail hmail) (isToken_of_mem_tokenize htext)
    change total (tokens.map (tokenScore r fuzzy)) = _
    rw [total_eq_sum, hworth]
  · have hnames : score.highlights.map (·.place.name) =
        (tokens.flatMap (placesOf r)).eraseDups.map Place.name := by
      rw [hhighlights, highlighted, List.map_map]
      rfl
    rw [hnames]
    exact (nodup_eraseDups _).map Place.name_injective
  · intro h hh
    rw [hhighlights] at hh
    obtain ⟨place, hplace, rfl⟩ := List.mem_map.mp hh
    obtain ⟨token, htoken, hplace⟩ := List.mem_flatMap.mp (List.mem_eraseDups.mp hplace)
    have hfound : token ∈ (tokens.filter (place.Shows r ·)).eraseDups := by
      rw [List.mem_eraseDups, List.mem_filter]
      exact ⟨htoken, (List.mem_filter.mp hplace).2⟩
    exact List.ne_nil_of_mem hfound

/-- A misspelt token counts for what it is near to, and one that is sought twice counts twice but is
shown once. One token is seen in both places first, so the subject comes first. -/
theorem ofRecord_of_ofMail_repeated :
    let mail : Value := .object [("id", .text "a"), ("subject", .text "Budget Review"),
      ("from", .text "Carol Budget <carol@example.com>")]
    let tokens := ["budgte", "budget", "carol", "review", "budget"]
    let fuzzy := some (Binary64.ofRatio 2 5)
    ∃ r, Record.ofMail mail = .ok r ∧ (∀ token ∈ tokens, ∃ text, token ∈ tokenize text) ∧
      (ofRecord r fuzzy tokens).points = (tokens.map (worth r fuzzy)).sum ∧
      (ofRecord r fuzzy tokens.reverse).points = (ofRecord r fuzzy tokens).points ∧
      (ofRecord r fuzzy tokens).points = 58 ∧
      (ofRecord r fuzzy tokens).highlights = highlighted r tokens ∧
      (ofRecord r fuzzy tokens).highlights =
        [⟨.subject, ["budget", "review"]⟩, ⟨.sender, ["budget", "carol"]⟩] := by
  intro mail tokens fuzzy
  have htokens : ∀ token ∈ tokens, ∃ text, token ∈ tokenize text := by
    have hall : ∀ token ∈ tokens, token ∈ tokenize "budgte budget carol review" := by decide +kernel
    exact fun token htoken ↦ ⟨_, hall token htoken⟩
  have hok : (Record.ofMail mail).toOption.any fun r ↦
      (ofRecord r fuzzy tokens).points = 58 ∧ (ofRecord r fuzzy tokens).highlights =
        [⟨.subject, ["budget", "review"]⟩, ⟨.sender, ["budget", "carol"]⟩] := by
    decide +kernel
  cases hmail : Record.ofMail mail with
  | error fault =>
    rw [hmail] at hok
    exact nomatch hok
  | ok r =>
    obtain ⟨hsum, hperm, hhighlights, -, -⟩ := ofRecord_of_ofMail hmail htokens fuzzy
    rw [hmail] at hok
    obtain ⟨hpoints, hshown⟩ := of_decide_eq_true hok
    exact ⟨r, rfl, htokens, hsum, hperm _ (List.reverse_perm tokens), hpoints, hhighlights, hshown⟩

end Score

end MailSearch
