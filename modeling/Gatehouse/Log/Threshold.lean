import Gatehouse.Log.Event

/-! # Thresholds

Below its threshold an event is not written. A deployment names the threshold, in any case of
letters; a name that means nothing leaves it at the usual one. -/

namespace Gatehouse

/-- The number of a level. -/
def Level.severity : Level → Nat
  | debug => 10
  | info => 20
  | warning => 30
  | error => 40
  | critical => 50

namespace Threshold

/-- Upper case of the letters that have an ASCII one; the dotless i and the long s are among
them. -/
def upperCase (s : String) : String :=
  String.ofList (s.toList.map fun c =>
    if c == '\u0131' then 'I' else if c == '\u017F' then 'S' else c.toUpper)

/-- The severity from which on events are written if nothing else is said. -/
def usual : Nat := Level.severity .info

/-- The layout of a line goes by a name of the same kind but is no threshold. -/
def lineLayout : String := "%(levelname)s:%(name)s:%(message)s"

/-- Neither are the layouts that there are to choose from. -/
def layouts : String :=
  "\x7b'%': (<class 'logging.PercentStyle'>, '%(levelname)s:%(name)s:%(message)s'), " ++
  "'\x7b': (<class 'logging.StrFormatStyle'>, '\x7blevelname\x7d:\x7bname\x7d:\x7bmessage\x7d'), " ++
  "'$': (<class 'logging.StringTemplateStyle'>, " ++
  "'$\x7blevelname\x7d:$\x7bname\x7d:$\x7bmessage\x7d')\x7d"

/-- The severity that a level name stands for, in upper or lower case. -/
def ofName (name : String) : Except Failure Nat :=
  match upperCase name with
  | "CRITICAL" | "FATAL" => .ok (Level.severity .critical)
  | "ERROR" => .ok (Level.severity .error)
  | "WARNING" | "WARN" => .ok (Level.severity .warning)
  | "INFO" => .ok (Level.severity .info)
  | "DEBUG" => .ok (Level.severity .debug)
  | "NOTSET" => .ok 0
  | "BASIC_FORMAT" => .error (.value ("Unknown level: '" ++ lineLayout ++ "'"))
  | "_STYLES" => .error (.type ("Level not an integer or a valid string: " ++ layouts))
  | _ => .ok usual

end Threshold

end Gatehouse
