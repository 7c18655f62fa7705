import CallBook.Call.Request
import CallBook.Json.Record
import CallBook.Json.Writer

/-!
# Saved calls and environments as JSON

A saved call is an object with the members `name`, `url`, `httpMethod`, `headers`, `body` and,
unless it is in no group, `groupName`; an environment has `name` and `variables`. They are written
with their members in this order. Reading is more liberal: members may come in any order or be
missing, any text is a method, and a list of the members' values stands for the object.
-/

namespace CallBook

namespace Request

/-- The call as a JSON value. -/
def toJson (r : Request) : Json.Value :=
  .object
    ([("name", .string r.name), ("url", .string r.url), ("httpMethod", .string r.method.verb),
      ("headers", .ofTexts r.headers), ("body", .ofTexts r.body)]
    ++ (match r.group with
      | none => []
      | some group => [("groupName", .string group)]))

/-- The fields of a call in JSON. -/
def jsonFields : List (Json.Field Request) :=
  [.of "name" Json.string fun r name => { r with name },
   .of "url" Json.string fun r url => { r with url },
   .of "httpMethod" Json.string fun r text => { r with method := .ofText text },
   .of "headers" Json.stringMap fun r headers => { r with headers },
   .of "body" Json.stringMap fun r body => { r with body },
   .of "groupName" Json.optionalString fun r group => { r with group }]

/-- Reads a call. -/
def readJson : Nat → Json.Reader Request := Json.recordOf "Request" jsonFields {}

end Request

namespace Environment

/-- The environment as a JSON value. -/
def toJson (e : Environment) : Json.Value :=
  .object [("name", .string e.name), ("variables", .ofTexts e.vars)]

/-- The fields of an environment in JSON. -/
def jsonFields : List (Json.Field Environment) :=
  [.of "name" Json.string fun e name => { e with name },
   .of "variables" Json.stringMap fun e vars => { e with vars }]

/-- Reads an environment. -/
def readJson : Nat → Json.Reader Environment := Json.recordOf "Environment" jsonFields {}

end Environment

end CallBook
