import AgentPipeline.Model.Catalog

/-!
# Messages to a model

A conversation is a list of messages.  System messages instruct the model; user messages alone
decide how demanding a conversation is.

## Main definitions

* `Message` — a message with the role of its author.
* `Message.systemText` — the instructions of a conversation in one text.
* `Message.tier` — the complexity tier of a conversation.
-/

namespace AgentPipeline

/-- A message of a conversation. -/
structure Message where
  /-- Whose message it is: `system`, `user` or any other word. -/
  role : String
  content : String
deriving Repr, DecidableEq

namespace Message

/-- A message that instructs the model. -/
def system (content : String) : Message :=
  ⟨"system", content⟩

/-- A message of the user. -/
def user (content : String) : Message :=
  ⟨"user", content⟩

/-- Whether a message instructs the model. -/
def isSystem (m : Message) : Bool :=
  m.role == "system"

/-- Whether a message is the user's. -/
def isUser (m : Message) : Bool :=
  m.role == "user"

/-- The system messages joined by empty lines; none when there is no system message. -/
def systemText (messages : List Message) : Option String :=
  match messages.filter isSystem with
  | [] => none
  | system => some ("\n\n".intercalate (system.map content))

/-- The user messages joined by blanks. -/
def userText (messages : List Message) : List Char :=
  [' '].intercalate ((messages.filter isUser).map fun m => m.content.toList)

/-- The complexity tier of a conversation. -/
def tier (messages : List Message) : Tier :=
  Tier.ofText (userText messages)

end Message

end AgentPipeline
