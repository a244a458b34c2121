import MailSearch.Console.Run

/-!
# Calls on lines

A client of the service writes one call on a line: a JSON object with the name of the tool
and its arguments. Every call is answered by a line with its value or with the reason why
it failed.
-/

namespace MailSearch

namespace Service

/-- Why a call fails, for a client. -/
def Refusal.message : Refusal → String
  | unknownTool => "Unknown tool"
  | badArguments => "Bad arguments"
  | failed fault => fault.message

end Service

namespace Console

/-- The call that a line holds. -/
def ToolCall.ofLine? (line : String) : Option ToolCall :=
  match Json.read .unlimited line with
  | .ok (.object fields) =>
      match Value.lookup? "tool" fields, Value.lookup? "args" fields with
      | some (.text tool), some (.object arguments) => some ⟨tool, arguments⟩
      | some (.text tool), none => some ⟨tool, []⟩
      | _, _ => none
  | _ => none

/-- The value that answers a call. -/
def replyValue : Except Service.Refusal Value → Value
  | .ok value => .object [("result", value)]
  | .error refusal => .object [("error", .text refusal.message)]

/-- The line that answers a call. -/
def replyLine (result : Except Service.Refusal Value) : String :=
  (Json.write .compact (replyValue result)).1

/-- Whether a command answers calls. -/
def Command.answersCalls : Command → Bool
  | serve _ _ => true
  | _ => false

/-- The files that a command may read or write. -/
def Command.paths (c : Command) (s : Settings) : List Path :=
  let snapshot := match c.snapshot? with
    | some text => some (Path.ofText text)
    | none => s.snapshotPath.toOption
  let beside := snapshot.bind fun p ↦ (p.withSuffix ".tmp").toOption
  let file := match c with
    | index file _ _ _ => some (Path.ofText file)
    | _ => none
  snapshot.toList ++ beside.toList ++ file.toList

end Console
end MailSearch
