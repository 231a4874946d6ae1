-- SUMMARY: The programs of the standard host that only read, compute and write.
import FunctionHost.Rehearsal.Shell.Format
import FunctionHost.Rehearsal.Shell.Test
import FunctionHost.Rehearsal.Shell.Utility.Editor
import FunctionHost.Rehearsal.Shell.Utility.Expression
import FunctionHost.Rehearsal.Shell.Utility.Files
import FunctionHost.Rehearsal.Shell.Utility.Search
import FunctionHost.Rehearsal.Shell.Utility.Survey
import FunctionHost.Rehearsal.Shell.Utility.System
import FunctionHost.Rehearsal.Shell.Utility.Texts

/-! # Utilities

A utility is known by its name. Those with a manner of their own refuse words that do not suit it
before anything else. A utility whose output is not described writes nothing, and tells by its
status whether it could read what it was to read. -/

namespace FunctionHost.Rehearsal.Shell.Request

/-- What a condition in words comes to. -/
def condition (r : Request) (words : List String) : Answer :=
  match (Test.View.mk r.tree r.here).holds (words.map Test.operatorName) with
  | .ok yes => r.answer [] (if yes then 0 else 1)
  | .error _ => r.complain 2 "malformed condition"

/-- What the utilities answer whose words are not separated into options and operands. -/
def plain? (r : Request) : Option Answer :=
  let asksForHelp := r.words = ["--help"] || r.words = ["--version"]
  match r.name with
  | "true" => some (r.answer [] 0)
  | "false" => some (r.answer [] 1)
  | "echo" => some r.echo
  | "printf" =>
    if asksForHelp then some (r.lines [r.name])
    else
      match if r.words.head? = some "--" then r.words.tail else r.words with
      | [] => some (r.refuse "missing operand")
      | format :: arguments =>
        let (text, status) := Format.print true format arguments
        some (r.answer text (min status 1))
  | "test" => some (r.condition r.words)
  | "[" =>
    if asksForHelp then some (r.lines [r.name])
    else if r.words.getLast? ≠ some "]" then some (r.complain 2 "missing ']'")
    else some (r.condition r.words.dropLast)
  | "expr" => some r.expr
  | "dd" => some r.dd
  | "find" => some r.find
  | "yes" =>
    if asksForHelp then some (r.lines [r.name])
    else
      let words := if r.words.head? = some "--" then r.words.tail else r.words
      let line := if words.isEmpty then "y" else String.intercalate " " words
      some (r.lines (List.replicate 4096 line))
  | _ => none

/-- What a utility answers to its options and operands. -/
def described? (r : Request) : Option Answer :=
  let silent := r.answer [] 0
  match r.name with
  | "cat" => some r.cat
  | "tac" => some (r.throughTexts fun text => textOf (linesOf text).reverse)
  | "rev" => some (r.throughLines fun all => all.map List.reverse)
  | "wc" => some r.wc
  | "head" => some r.head
  | "tail" => some r.tail
  | "tr" => some r.tr
  | "cut" => some r.cut
  | "fold" => some r.fold
  | "paste" => some r.paste
  | "nl" => some r.nl
  | "base64" => some r.base64
  | "sort" => some r.sort
  | "uniq" => some r.uniq
  | "shuf" => some r.shuf
  | "split" =>
    let amounts := ['a', 'b', 'C', 'l', 'n'].filterMap r.value?
    if amounts.all fun text => (sizeOf? text).isSome then none
    else some (r.refuse "invalid number")
  | "comm" => some r.comm
  | "cmp" => some r.cmp
  | "diff" => some r.diff
  | "tee" => some r.tee
  | "grep" => some r.grep
  | "egrep" => some r.grep
  | "fgrep" => some r.grep
  | "sed" => some r.sed
  | "seq" => some r.seq
  | "factor" => some r.factor
  | "sleep" => some r.sleep
  | "numfmt" => some r.numfmt
  | "basename" => some r.basename
  | "dirname" => some (r.lines (r.operands.map dirName))
  | "ls" => some r.ls
  | "dir" => some r.ls
  | "vdir" => some r.ls
  | "mkdir" => some (r.changing r.operands (makeDirectory r.here (r.has 'p')))
  | "mkfifo" => some (r.changing r.operands (makeNode r.here .void))
  | "mknod" =>
    match r.operands with
    | [path, "p"] => some (r.changing [path] (makeNode r.here .void))
    | [path, kind, major, minor] =>
      if ["b", "c", "u"].contains kind && [major, minor].all (·.toNat?.isSome) then
        some (r.changing [path] (makeNode r.here .void))
      else some (r.refuse "invalid device")
    | _ => some (r.refuse "wrong number of operands")
  | "rmdir" => some (r.changing r.operands (removeDirectory r.here (r.has 'p')))
  | "rm" => some r.rm
  | "unlink" => some (r.changing r.operands (removeEntry r.here false false false))
  | "link" => some (r.transfer (.linking false))
  | "touch" => some (r.changing r.operands (touchFile r.here (!r.has 'c' && !r.has 'h')))
  | "truncate" => some r.truncate
  | "shred" => some (r.changing r.operands fun tree path => do
      match ← tree.open? r.here path with
      | (_, .directory) => throw .isDirectory
      | (place, _) => return if r.has 'u' then tree.remove place else tree)
  | "chmod" => some r.chmod
  | "chown" => some r.chown
  | "chgrp" => some r.chown
  | "cp" => some (r.transfer (.copying (r.has 'r' || r.has 'R' || r.has 'a')))
  | "mv" => some (r.transfer .moving)
  | "ln" => some (r.transfer (.linking (r.has 's')))
  | "install" => some r.install
  | "mktemp" => some r.mktemp
  | "readlink" => some r.readlink
  | "realpath" => some r.realpath
  | "stat" => some r.stat
  | "pathchk" => some r.pathchk
  | "which" => some r.which
  | "id" => some r.identity
  | "groups" => some r.groupsOf
  | "getent" => some r.getent
  | "whoami" => some (r.lines ["root"])
  | "uname" => some r.uname
  | "arch" => some (r.lines ["x86_64"])
  | "hostid" => some (r.lines ["007f0100"])
  | "hostname" => some r.hostname
  | "nproc" => some (r.lines ["1"])
  | "date" => some r.date
  | "printenv" => some r.printenv
  | "pwd" => some (r.lines [pathOf r.here])
  | "tty" => some { r.lines (if r.has 's' || r.hasNamed "quiet" then [] else ["not a tty"]) with
      status := 1 }
  | "stty" => some (r.refuse "'standard input': Inappropriate ioctl for device")
  | "logname" => some (r.refuse "no login name")
  | "dircolors" =>
    if r.has 'p' || r.has 'b' || r.has 'c' then some silent
    else some (r.refuse "no SHELL environment variable, and no shell type option given")
  | "gzip" => some r.compressed
  | "gunzip" => some r.compressed
  | "uncompress" => some r.compressed
  | "zcat" => some r.compressed
  | "tsort" =>
    let (read, complaints) := r.contents r.operands
    let count := read.foldl (fun count (_, text) => count + (wordsOf text).length) 0
    if count % 2 = 1 then some (r.refuse "input contains an odd number of tokens")
    else some (r.withComplaints [] complaints)
  | "csplit" => some (r.withComplaints [] (r.contents (r.operands.take 1)).2)
  | "locale" => some (if r.operands.isEmpty then silent else r.complain 1 "unknown name")
  | _ => none

/-- What a utility answers of which only its manner is known. -/
def undescribed (r : Request) (m : Manner) : Answer :=
  match m.operands with
  | .words => r.answer [] 0
  | .paths => r.visiting []
  | .files =>
    let count := match r.name with
      | "uniq" => 1
      | "split" => 1
      | _ => r.operands.length
    let answer := r.withComplaints [] (r.contents (r.operands.take count)).2
    { answer with status := min answer.status (if r.name = "iconv" then 1 else answer.status) }

/-- What a utility answers. -/
def carryOut (name : String) (words : List String) (input : List Char)
    (values : List (String × String)) (tree : Host.Tree) (here : Host.Place) : Answer :=
  let manner := Manner.ofName? name
  let refusal := (manner.map (·.refusal)).getD 1
  let r : Request := ⟨name, words, [], words, refusal, input, values, tree, here⟩
  match r.plain?, manner with
  | some answer, _ => answer
  | none, none => r.answer [] 0
  | none, some manner =>
    match manner.separate? words with
    | .error about => r.refuse about
    | .ok (given, operands) =>
      let r := { r with given, operands }
      if r.hasNamed "help" || r.hasNamed "version" then r.lines [name]
      else r.described?.getD (r.undescribed manner)

/-- Whether a utility with such words reads its input to the end. -/
def drainsInput (name : String) (words : List String) : Bool :=
  let operands := match Manner.ofName? name with
    | some manner => ((manner.separate? words).toOption.map Prod.snd).getD []
    | none => words
  let first := if ["grep", "egrep", "fgrep", "sed"].contains name then 1 else 0
  let paths := operands.drop first
  match name with
  | "tr" => true
  | "tee" => true
  | "xargs" => true
  | "dd" => !words.any (·.startsWith "if=")
  | "factor" => paths.isEmpty
  | "numfmt" => paths.isEmpty
  | "head" => paths.isEmpty || paths.contains "-"
  | "awk" => true
  | _ =>
    ((Manner.ofName? name).any fun m => m.operands = .files || first = 1)
      && (paths.isEmpty || paths.contains "-")

end FunctionHost.Rehearsal.Shell.Request
