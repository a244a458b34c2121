import MailSearch.Unicode.Blank
import MailSearch.Unicode.Lowercase
import MailSearch.Unicode.WordCharacter

/-!
# Tokens

A text is searched by its tokens: the runs of word characters and of the characters of
an address in its lower case, without single characters and without words too common to
be searched for.
-/

namespace MailSearch

/-- Words too common to be searched for. -/
def stopWords : List String := [
  "a", "an", "the", "and", "or", "but", "in", "on", "at", "to", "for", "of", "with", "by", "from",
  "as", "is", "was", "are", "were", "been", "be", "have", "has", "had", "do", "does", "did",
  "will", "would", "could", "should", "may", "might", "must", "shall", "can", "need", "dare",
  "ought", "used", "i", "me", "my", "myself", "we", "our", "ours", "ourselves", "you", "your",
  "yours", "yourself", "yourselves", "he", "him", "his", "himself", "she", "her", "hers",
  "herself", "it", "its", "itself", "they", "them", "their", "theirs", "themselves", "what",
  "which", "who", "whom", "this", "that", "these", "those", "am", "being", "having", "doing",
  "if", "because", "until", "while", "about", "against", "between", "into", "through", "during",
  "before", "after", "above", "below", "up", "down", "out", "off", "over", "under", "again",
  "further", "then", "once"]

/-- Whether a character may stand in a token: a word character, or one of an address. -/
def isTokenCharacter (c : Char) : Bool :=
  Unicode.isWordCharacter c || c = '@' || c = '.' || c = '-'

/-- Whether a run is a token: at least two characters and no stop word. -/
def isToken (run : List Char) : Bool :=
  1 < run.length && !stopWords.contains (String.ofList run)

/-- The tokens of a list of characters. -/
def tokenRuns (cs : List Char) : List (List Char) :=
  (Unicode.runs isTokenCharacter (Unicode.lowerChars cs)).filter isToken

/-- The tokens of a text, in order and with repetition. -/
def tokenize (text : String) : List String := (tokenRuns text.toList).map String.ofList

/-- The distinct tokens of several texts, in the order in which they first occur. -/
def distinctTokens (texts : List String) : List String := (texts.flatMap tokenize).eraseDups

end MailSearch
