import Gatehouse.Failure

/-! # Making errors from arguments

A gateway error is made from arguments, some in order and some by name. Each kind of error has its
own parameters: some must be given, the others have defaults. Arguments that do not fit the
parameters make no error of that kind; of several faults an argument by name counts first, then
too many arguments, then one that is missing. -/

namespace Gatehouse

/-- What an error is made from. -/
structure Parameters where
  /-- How the maker of the error is called. -/
  maker : String
  required : List String
  /-- Parameters that may be left out, with their defaults. -/
  optional : List (String × String)

namespace Parameters

def names (p : Parameters) : List String := p.required ++ p.optional.map (·.1)

/-- The failure of a call with wrong arguments. -/
def complaint (p : Parameters) (what : String) : Failure :=
  .type (p.maker ++ ".__init__() " ++ what)

/-- The error that is to be made counts as an argument too. -/
def tooMany (p : Parameters) (given : Nat) : Failure :=
  let least := p.required.length + 1
  let most := p.names.length + 1
  let range := if least == most then toString most
    else "from " ++ toString least ++ " to " ++ toString most
  p.complaint ("takes " ++ range ++ " positional arguments but " ++ toString (given + 1) ++
    " were given")

/-- The values of the parameters that are known after arguments by name. -/
def bindNamed (p : Parameters) (known : List (String × String)) :
    List (String × String) → Except Failure (List (String × String))
  | [] => .ok known
  | (name, value) :: rest =>
    if !p.names.contains name then
      .error (p.complaint ("got an unexpected keyword argument '" ++ name ++ "'"))
    else if known.any fun k => k.1 == name then
      .error (p.complaint ("got multiple values for argument '" ++ name ++ "'"))
    else bindNamed p (known ++ [(name, value)]) rest

/-- The values of all parameters, in order. -/
def bind (p : Parameters) (ordered : List String) (named : List (String × String)) :
    Except Failure (List String) := do
  let known ← p.bindNamed (p.names.zip ordered) named
  if p.names.length < ordered.length then throw (p.tooMany ordered.length)
  match p.required.find? fun name => !known.any fun k => k.1 == name with
  | some name => throw (p.complaint ("missing 1 required positional argument: '" ++ name ++ "'"))
  | none =>
    let values := known ++ p.optional
    return p.names.map fun name => ((values.find? fun k => k.1 == name).map (·.2)).getD ""

end Parameters

namespace GatewayError

/-- The parameters of an error that tells a detail only. -/
def detailOnly : Parameters := ⟨"GatewayError", [], [("detail", "")]⟩

/-- The parameters of an error by its name, and how the error comes from their values. -/
def maker (name : String) : Parameters × (List String → GatewayError) :=
  let detail (values : List String) : String := values.headD ""
  match name with
  | "SiteNotFound" => (⟨name, ["host"], []⟩, fun values => siteNotFound (values.headD ""))
  | "Unauthenticated" =>
    (⟨name, ["location"], [("flash", defaultFlash)]⟩,
      fun values => unauthenticated (values.headD "") ((values.drop 1).headD ""))
  | "DeadlineExceeded" =>
    (⟨name, [], [("detail", defaultTimeoutDetail)]⟩, fun values => deadlineExceeded (detail values))
  | "InternalLookupError" => (detailOnly, fun values => lookupFailed (detail values))
  | "InvalidToken" => (detailOnly, fun values => invalidToken (detail values))
  | "Forbidden" => (detailOnly, fun values => forbidden (detail values))
  | "NotFoundOrNotAdmin" => (detailOnly, fun values => notAdmin (detail values))
  | "SerializationError" => (detailOnly, fun values => unserializable (detail values))
  | _ => (detailOnly, fun values => general (detail values))

/-- The error of a name made from arguments. -/
def ofArguments (name : String) (ordered : List String) (named : List (String × String)) :
    Except Failure GatewayError :=
  let (parameters, make) := maker name
  (parameters.bind ordered named).map make

end GatewayError

end Gatehouse
