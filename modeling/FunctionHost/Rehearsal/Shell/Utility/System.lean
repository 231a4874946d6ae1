-- SUMMARY: Utilities that tell about the host, its users and its variables.
import FunctionHost.Rehearsal.Shell.Format
import FunctionHost.Rehearsal.Shell.Utility.Files

/-! # Telling about the host

These utilities write what is known about the host on which they run. What would be different on
every host, such as the time, has some fixed value here. -/

namespace FunctionHost.Rehearsal.Shell.Request

/-- The numbers and names of a user, or of the user who runs all. -/
def identity (r : Request) : Answer :=
  let wanted := r.operands.headD "root"
  let users := r.known "/etc/passwd"
  let user := users.find? fun (name, fields) => name = wanted || fields[1]? = some wanted
  match if r.operands.isEmpty then some ("root", ["x", "0", "0"]) else user with
  | none => r.complain 1 ("'" ++ wanted ++ "': no such user")
  | some (name, fields) =>
    let uid := (fields[1]?).getD "0"
    let gid := (fields[2]?).getD "0"
    let kinds := (['u', 'g', 'G'].filter r.has).length
    if kinds > 1 then r.complain 1 "cannot print \"only\" of more than one choice"
    else if kinds = 0 && (r.has 'n' || r.has 'r') then
      r.complain 1 "cannot print only names or real IDs in default format"
    else if kinds = 0 then
      r.lines ["uid=" ++ uid ++ "(" ++ name ++ ") gid=" ++ gid ++ "(" ++ name ++ ") groups=" ++ gid
        ++ "(" ++ name ++ ")"]
    else r.lines [if r.has 'n' then name else if r.has 'u' then uid else gid]

/-- The groups of users. -/
def groupsOf (r : Request) : Answer :=
  let users := r.known "/etc/passwd"
  let unknown := r.operands.filter fun name => (users.lookup name).isNone
  let lines := if r.operands.isEmpty then ["root"] else
    (r.operands.filter fun name => !unknown.contains name).map fun name => name ++ " : " ++ name
  { r.lines lines with
    complaints := unknown.map fun name => r.name ++ ": '" ++ name ++ "': no such user"
    status := if unknown.isEmpty then 0 else 1 }

/-- What is known under keys in one of the lists of the host. -/
def getent (r : Request) : Answer :=
  let lists := ["passwd", "group", "shadow", "gshadow", "hosts", "ahosts", "ahostsv4", "ahostsv6",
    "networks", "protocols", "services", "rpc", "ethers", "aliases", "netgroup", "initgroups"]
  match r.operands with
  | [] => r.complain 1 "wrong number of arguments"
  | list :: keys =>
    if !lists.contains list then r.complain 1 ("Unknown database: " ++ list)
    else
      let text := ((r.content ("/etc/" ++ list)).toOption).getD []
      let all := (linesOf text).map String.ofList
      let isFor (key line : String) : Bool :=
        let words := (line.splitOn ":").flatMap fun part => part.splitOn "\t"
        words.head? = some key || (words.drop 1).contains key
      let found := keys.map fun key => all.find? (isFor key)
      if keys.isEmpty then r.lines all
      else
        { r.lines (found.filterMap fun line => line) with
          status := if found.all Option.isSome then 0 else 2 }

/-- What the system is called. -/
def uname (r : Request) : Answer :=
  let all := r.has 'a'
  let fields := [('s', "Linux"), ('n', "host"), ('r', "6.1.0"), ('v', "#1 SMP"), ('m', "x86_64"),
    ('o', "GNU/Linux")]
  let chosen := fields.filter fun (letter, _) => all || r.has letter
  let chosen := if chosen.isEmpty && !r.has 'p' && !r.has 'i' then fields.take 1 else chosen
  let unknown := if all then [] else ['p', 'i'].filter r.has |>.map fun _ => "unknown"
  r.lines [String.intercalate " " (chosen.map Prod.snd ++ unknown)]

/-- The time, in a format if there is one. -/
def date (r : Request) : Answer :=
  let known := [('s', "1700000000"), ('Y', "2023"), ('m', "11"), ('d', "14"), ('H', "22"),
    ('M', "13"), ('S', "20"), ('j', "318"), ('y', "23"), ('u', "2"), ('w', "2"), ('a', "Tue"),
    ('b', "Nov"), ('F', "2023-11-14"), ('T', "22:13:20"), ('Z', "UTC"), ('z', "+0000"),
    ('n', "\n"), ('t', "\t"), ('%', "%"), ('N', "000000000")]
  match r.operands with
  | [] => r.lines ["Tue Nov 14 22:13:20 UTC 2023"]
  | word :: _ =>
    match word.toList with
    | '+' :: format => r.answer (fill known (format.length + 1) format ++ ['\n']) 0
    | _ => r.refuse ("invalid date '" ++ word ++ "'")
where
  /-- A format with its directives replaced. -/
  fill (known : List (Char × String)) (fuel : Nat) (cs : List Char) : List Char :=
    match fuel, cs with
    | 0, _ => []
    | _, [] => []
    | fuel + 1, '%' :: c :: rest =>
      match known.lookup c with
      | some text => text.toList ++ fill known fuel rest
      | none => '%' :: c :: fill known fuel rest
    | fuel + 1, c :: rest => c :: fill known fuel rest

/-- The variables, or the values of some of them. -/
def printenv (r : Request) : Answer :=
  let ending := if r.has '0' then ['\x00'] else ['\n']
  if r.operands.isEmpty then
    r.answer (r.values.flatMap fun (name, value) => (name ++ "=" ++ value).toList ++ ending) 0
  else
    let found := r.operands.filterMap fun name => r.values.lookup name
    r.answer (found.flatMap fun value => value.toList ++ ending)
      (if found.length = r.operands.length then 0 else 1)

/-- The name of the host, which only a plain name changes. -/
def hostname (r : Request) : Answer :=
  match r.operands with
  | [] => r.lines ["host"]
  | [_] => r.complain 1 "the specified hostname is invalid"
  | _ => r.refuse "usage"

/-- Words with spaces between them, as they are or with their escapes replaced. -/
def echo (r : Request) : Answer :=
  if r.words = ["--help"] || r.words = ["--version"] then r.lines [r.name]
  else r.answer (Format.echoWithOptions r.words) 0

/-- Numbers, which are written as they are. -/
def numfmt (r : Request) : Answer :=
  let isNumber (word : String) : Bool :=
    let cs := if word.startsWith "-" then word.toList.drop 1 else word.toList
    !cs.isEmpty && cs.all fun c => c.isDigit || c = '.'
  match r.operands.find? (!isNumber ·) with
  | some word => r.complain 2 ("invalid number: '" ++ word ++ "'")
  | none => if r.operands.isEmpty then r.answer r.input 0 else r.lines r.operands

end FunctionHost.Rehearsal.Shell.Request
