-- SUMMARY: What the usual utilities take: their options, and how many and which operands.
import FunctionHost.Rehearsal.Shell.Utility.Switch

/-! # Manners of utilities

A utility refuses options that it does not take, and too few or too many operands. What it does with
the operands is the same for many utilities: it reads them as files, or as paths that have to lead
somewhere. -/

namespace FunctionHost.Rehearsal.Shell

/-- What the operands of a utility are. -/
inductive Operands where
  | words
  | files
  | paths
  deriving Repr, DecidableEq

/-- What some utilities take, and the status with which they refuse anything else. With `inOrder`,
    options end at the first operand, and with `negative` a number after a dash is an operand. The
    letter `number` takes a number that comes after a dash. -/
structure Manner where
  names : List String
  switches : List Switch
  refusal : Nat := 1
  operands : Operands := .words
  least : Nat := 0
  most : Option Nat := none
  inOrder : Bool := false
  negative : Bool := false
  number : Option Char := none

namespace Manner

/-- The manner of utilities that take any operands and some options. -/
def of (names switches : String) : Manner where
  names := names.splitOn " "
  switches := Switch.common
    ++ ((switches.splitOn " ").filter (!·.isEmpty)).map Switch.ofWord

/-- The manner of utilities that offer no help. -/
def curt (names switches : String) : Manner :=
  let m := of names switches
  { m with switches := m.switches.drop Switch.common.length }

/-- The manner of utilities that read files. -/
def reading (names switches : String) : Manner :=
  { of names switches with operands := .files }

/-- The manner of utilities that take at least some operands. -/
def needing (least : Nat) (names switches : String) : Manner :=
  { of names switches with least }

/-- The manner of utilities that take no operands. -/
def alone (names switches : String) : Manner :=
  { of names switches with most := some 0 }

/-- The options that copying and moving have in common. -/
def copying : String :=
  ("~backup b- -debug f-force i-interactive n-no-clobber -strip-trailing-slashes S=suffix "
   ++ "t=target-directory T-no-target-directory ~update u- v-verbose ")

/-- Utilities that read texts and write texts. -/
def texts : List Manner :=
  [ reading "cat" ("A-show-all b-number-nonblank e- E-show-ends n-number s-squeeze-blank t- "
      ++ "T-show-tabs u- v-show-nonprinting"),
    reading "cksum" ("a=algorithm -base64 c-check l=length -raw -tag -untagged z-zero "
      ++ "-ignore-missing -quiet -status -strict w-warn -debug"),
    reading "md5sum sha1sum sha224sum sha256sum sha384sum sha512sum b2sum" ("b-binary c-check -tag "
      ++ "t-text z-zero -ignore-missing -quiet -status -strict w-warn"),
    reading "sum" "r- s-sysv",
    reading "wc" "c-bytes m-chars l-lines =files0-from L-max-line-length w-words =total",
    { reading "head" "c=bytes n=lines q-quiet -silent v-verbose z-zero-terminated" with
      number := some 'n' },
    { reading "tail" ("c=bytes f- ~follow F- n=lines =max-unchanged-stats =pid q-quiet -silent "
        ++ "-retry s=sleep-interval v-verbose z-zero-terminated") with
      number := some 'n' },
    reading "tac" "b-before r-regex s=separator",
    reading "rev" "z-zero",
    reading "nl" ("b=body-numbering d=section-delimiter f=footer-numbering h=header-numbering "
      ++ "i=line-increment l=join-blank-lines n=number-format p-no-renumber s=number-separator "
      ++ "v=starting-line-number w=number-width"),
    { reading "fold" "b-bytes s-spaces w=width" with number := some 'w' },
    { reading "fmt" ("c-crown-margin p=prefix s-split-only t-tagged-paragraph u-uniform-spacing "
        ++ "w=width g=goal") with
      number := some 'w' },
    { reading "expand" "i-initial t=tabs" with number := some 't' },
    { reading "unexpand" "a-all -first-only t=tabs" with number := some 't' },
    reading "paste" "d=delimiters s-serial z-zero-terminated",
    reading "cut" ("b=bytes c=characters d=delimiter f=fields n- -complement s-only-delimited "
      ++ "=output-delimiter z-zero-terminated"),
    { reading "sort" ("b-ignore-leading-blanks d-dictionary-order f-ignore-case "
        ++ "g-general-numeric-sort i-ignore-nonprinting M-month-sort h-human-numeric-sort "
        ++ "n-numeric-sort R-random-sort =random-source r-reverse =sort V-version-sort =batch-size "
        ++ "c- ~check C- =compress-program -debug =files0-from k=key m-merge o=output s-stable "
        ++ "S=buffer-size t=field-separator T=temporary-directory =parallel u-unique "
        ++ "z-zero-terminated") with
      refusal := 2 },
    { reading "uniq" ("c-count d-repeated D- ~all-repeated f=skip-fields ~group i-ignore-case "
        ++ "s=skip-chars u-unique z-zero-terminated w=check-chars") with
      most := some 2
      number := some 'f' },
    { reading "comm" ("1- 2- 3- -check-order -nocheck-order =output-delimiter -total "
        ++ "z-zero-terminated") with
      least := 2
      most := some 2 },
    { reading "join" ("a= e= i-ignore-case j= o= t= v= 1= 2= -check-order -nocheck-order -header "
        ++ "z-zero-terminated") with
      least := 2
      most := some 2 },
    { reading "base64 base32" "d-decode i-ignore-garbage w=wrap" with most := some 1 },
    reading "od" ("A=address-radix =endian j=skip-bytes N=read-bytes S=strings t=format "
      ++ "v-output-duplicates w~width -traditional a- b- c- d- f- i- l- o- s- x-"),
    { reading "pr" ("C=columns a-across c-show-control-chars d-double-space D=date-format "
        ++ "e~expand-tabs F-form-feed f- h=header i~output-tabs J-join-lines l=length m-merge "
        ++ "n~number-lines N=first-line-number o=indent r-no-file-warnings s~separator "
        ++ "S~sep-string t-omit-header T-omit-pagination v-show-nonprinting w=width "
        ++ "W=page-width") with
      number := some 'C' },
    reading "ptx" ("A-auto-reference G-traditional F=flag-truncation M=macro-name O=format "
      ++ "R-right-side-refs S=sentence-regexp T- W=word-regexp b=break-file f-ignore-case "
      ++ "g=gap-size i=ignore-file o=only-file r-references t-typeset-mode w=width"),
    reading "shuf" ("e-echo i=input-range n=head-count o=output =random-source r-repeat "
        ++ "z-zero-terminated"),
    { reading "split" ("a=suffix-length =additional-suffix b=bytes C=line-bytes d- "
        ++ "~numeric-suffixes x- ~hex-suffixes e-elide-empty-files =filter l=lines n=number "
        ++ "t=separator u-unbuffered -verbose") with
      most := some 2
      number := some 'l' },
    { reading "tsort" "" with most := some 1 },
    { reading "cmp" "b-print-bytes i=ignore-initial l-verbose n=bytes s-quiet -silent" with
      refusal := 2
      least := 1
      most := some 4 },
    { reading "diff" ("-normal q-brief s-report-identical-files c- ~context C= u- ~unified U= e-ed "
        ++ "n-rcs y-side-by-side W=width -left-column -suppress-common-lines p-show-c-function "
        ++ "F=show-function-line =label t-expand-tabs T-initial-tab =tabsize -suppress-blank-empty "
        ++ "l-paginate r-recursive -no-dereference N-new-file -unidirectional-new-file "
        ++ "-ignore-file-name-case x=exclude X=exclude-from S=starting-file =from-file =to-file "
        ++ "i-ignore-case E-ignore-tab-expansion Z-ignore-trailing-space b-ignore-space-change "
        ++ "w-ignore-all-space B-ignore-blank-lines I=ignore-matching-lines a-text "
        ++ "-strip-trailing-cr D=ifdef =line-format d-minimal =horizon-lines -speed-large-files "
        ++ "~color =palette") with
      refusal := 2
      least := 2
      most := some 2 },
    { of "grep egrep fgrep" ("E-extended-regexp F-fixed-strings G-basic-regexp P-perl-regexp "
        ++ "e=regexp f=file i-ignore-case y- -no-ignore-case w-word-regexp x-line-regexp "
        ++ "z-null-data s-no-messages v-invert-match m=max-count b-byte-offset n-line-number "
        ++ "-line-buffered H-with-filename h-no-filename =label o-only-matching q-quiet -silent "
        ++ "=binary-files a-text I- d=directories D=devices r-recursive R-dereference-recursive "
        ++ "=include =exclude "
        ++ "=exclude-from =exclude-dir L-files-without-match l-files-with-matches c-count "
        ++ "T-initial-tab Z-null B=before-context A=after-context C=context N= =group-separator "
        ++ "-no-group-separator ~color ~colour U-binary V-") with
      refusal := 2
      number := some 'C' },
    { needing 1 "tr" "c-complement C- d-delete s-squeeze-repeats t-truncate-set1" with
      most := some 2
      inOrder := true },
    of "tee" "a-append i-ignore-interrupts p- ~output-error",
    of "sed" ("n-quiet -silent -debug e=expression f=file -follow-symlinks i~in-place "
      ++ "l=line-length -posix E-regexp-extended r- s-separate -sandbox u-unbuffered z-null-data"),
    { needing 2 "csplit" ("b=suffix-format f=prefix k-keep-files -suppress-matched n=digits "
        ++ "s-quiet -silent z-elide-empty-files") with
      operands := .words } ]

/-- Utilities that look at files or change them. -/
def files : List Manner :=
  [ { of "ls dir vdir" ("a-all A-almost-all -author b-escape =block-size B-ignore-backups c- C- "
        ++ "~color d-directory D-dired f- F- ~classify -file-type =format -full-time g- "
        ++ "-group-directories-first G-no-group h-human-readable -si H-dereference-command-line "
        ++ "-dereference-command-line-symlink-to-dir =hide ~hyperlink =indicator-style i-inode "
        ++ "I=ignore k-kibibytes l- L-dereference m- n-numeric-uid-gid N-literal o- p- "
        ++ "q-hide-control-chars -show-control-chars Q-quote-name =quoting-style r-reverse "
        ++ "R-recursive s-size S- =sort =time =time-style t- T=tabsize u- U- v- w=width x- X- "
        ++ "Z-context -zero 1-") with
      refusal := 2 },
    needing 1 "mkdir" "m=mode p-parents v-verbose Z- ~context",
    needing 1 "mkfifo" "m=mode Z- ~context",
    needing 2 "mknod" "m=mode Z- ~context",
    needing 1 "rmdir" "-ignore-fail-on-non-empty p-parents v-verbose",
    of "rm" ("f-force i- I- ~interactive -one-file-system -no-preserve-root ~preserve-root "
      ++ "r-recursive R- d-dir v-verbose"),
    { needing 1 "unlink" "" with most := some 1 },
    { needing 2 "link" "" with most := some 2 },
    needing 1 "touch" "a- c-no-create d=date f- h-no-dereference m- r=reference t= =time",
    needing 1 "truncate" "c-no-create o-io-blocks r=reference s=size",
    needing 1 "shred" ("f-force n=iterations =random-source s=size u- ~remove v-verbose x-exact "
      ++ "z-zero"),
    needing 1 "chmod" ("c-changes f-silent -quiet v-verbose -no-preserve-root -preserve-root "
      ++ "=reference R-recursive r- w- x- X- s- t- u- g- o- a-"),
    needing 1 "chown chgrp" ("c-changes f-silent -quiet v-verbose -dereference h-no-dereference "
      ++ "=from -no-preserve-root -preserve-root =reference R-recursive H- L- P-"),
    of "cp" (copying ++ ("a-archive -attributes-only -copy-contents d- H- l-link L-dereference "
      ++ "P-no-dereference p- ~preserve =no-preserve -parents R-recursive r- ~reflink "
      ++ "-remove-destination =sparse s-symbolic-link x-one-file-system Z- ~context")),
    of "mv" (copying ++ "-no-copy Z-context"),
    of "install" (copying ++ ("c- C-compare d-directory D- g=group m=mode o=owner "
      ++ "p-preserve-timestamps s-strip =strip-program -preserve-context Z- ~context")),
    of "ln" (copying ++ ("d-directory F- L-logical P-physical r-relative s-symbolic "
      ++ "-no-dereference")),
    { of "mktemp" "d-directory u-dry-run q-quiet =suffix p= ~tmpdir t-" with most := some 1 },
    needing 1 "readlink" ("f-canonicalize e-canonicalize-existing m-canonicalize-missing "
      ++ "n-no-newline q-quiet s-silent v-verbose z-zero"),
    needing 1 "realpath" ("e-canonicalize-existing m-canonicalize-missing L-logical P-physical "
      ++ "q-quiet =relative-to =relative-base s-strip -no-symlinks z-zero"),
    { needing 1 "stat" "L-dereference f-file-system =cached c=format =printf t-terse" with
      operands := .paths },
    { of "du" ("0-null a-all -apparent-size B=block-size b-bytes c-total D-dereference-args "
        ++ "d=max-depth =files0-from H- h-human-readable -inodes k- L-dereference l-count-links m- "
        ++ "P-no-dereference S-separate-dirs -si s-summarize t=threshold ~time =time-style "
        ++ "X=exclude-from =exclude x-one-file-system") with
      operands := .paths },
    { of "df" ("a-all B=block-size h-human-readable H-si i-inodes k- l-local -no-sync ~output "
        ++ "P-portability -sync -total t=type T-print-type x=exclude-type v-") with
      operands := .paths },
    { of "sync" "d-data f-file-system" with operands := .paths },
    needing 1 "dirname" "z-zero",
    { needing 1 "basename" "a-multiple s=suffix z-zero" with inOrder := true },
    needing 1 "pathchk" "p- P- -portability" ]

/-- Utilities that compute or tell something. -/
def others : List Manner :=
  [ alone "arch hostid whoami logname" "",
    alone "nproc" "-all =ignore",
    alone "uname" ("a-all s-kernel-name n-nodename r-kernel-release v-kernel-version m-machine "
      ++ "p-processor i-hardware-platform o-operating-system"),
    { alone "tty" "s-silent -quiet" with refusal := 2 },
    of "pwd" "L-logical P-physical",
    of "id" "a- Z-context g-group G-groups n-name r-real u-user z-zero",
    of "groups" "",
    { of "users" "" with most := some 1 },
    { of "who" ("a-all b-boot d-dead H-heading l-login -lookup m- p-process q-count r-runlevel "
        ++ "s-short t-time T-mesg w- u-users -message -writable") with
      most := some 2 },
    of "pinky" "l- b- h- p- s- f- w- i- q- -lookup",
    { of "date" ("d=date -debug f=file I~iso-8601 -resolution R-rfc-email =rfc-3339 r=reference "
        ++ "s=set u-utc -universal") with
      most := some 1 },
    { curt "hostname" ("a-alias A-all-fqdns b- f-fqdn F=file i-ip-address I-all-ip-addresses "
        ++ "s-short d-domain y-yp -long h-") with
      refusal := 255 },
    { of "printenv" "0-null" with
      refusal := 2
      inOrder := true },
    { needing 1 "seq" "f=format s=separator w-equal-width" with
      most := some 3
      inOrder := true
      negative := true },
    needing 1 "sleep" "",
    of "factor" "h-exponents",
    of "numfmt" ("-debug d=delimiter =field =format =from =from-unit -grouping ~header =invalid "
      ++ "=padding =round =suffix =to =to-unit z-zero-terminated M-"),
    { of "stty" "a-all g-save F=file" with inOrder := true },
    of "dircolors" "b-sh -bourne-shell c-csh -c-shell p-print-database -print-ls-colors",
    { curt "which" "a- s-" with
      refusal := 2
      inOrder := true },
    of "logger" ("i- -id f=file e-skip-empty n=server p=priority P=port s-stderr S=size t=tag "
      ++ "T-tcp d-udp"),
    { of "getent" "A- i-no-idn s=service" with refusal := 64 },
    { reading "iconv" "c- f=from-code l-list o=output s-silent t=to-code -verbose" with
      refusal := 64 },
    of "gzip gunzip zcat uncompress" ("c-stdout d-decompress f-force k-keep l-list L-license "
      ++ "n-no-name N-name q-quiet r-recursive -rsyncable S=suffix -synchronous t-test v-verbose "
      ++ "1-fast 9-best 2- 3- 4- 5- 6- 7- 8-"),
    of "more" "d-silent f-logical l-no-pause c-print-over p-clean-print s-squeeze u-plain n=lines",
    { of "locale" "a-all-locales c-category-name k-keyword-name m-charmaps v-verbose" with
      refusal := 64 } ]

/-- Utilities that start other programs. -/
def launchers : List Manner :=
  [ { of "env" ("i-ignore-environment 0-null u=unset C=chdir S=split-string v-debug ~block-signal "
        ++ "~default-signal ~ignore-signal -list-signal-handling") with
      refusal := 125
      inOrder := true },
    { needing 2 "timeout" "-preserve-status -foreground k=kill-after s=signal v-verbose" with
      refusal := 125
      inOrder := true },
    { of "nice" "n=adjustment" with
      refusal := 125
      inOrder := true
      number := some 'n' },
    { needing 1 "nohup" "" with
      refusal := 125
      inOrder := true },
    { needing 1 "setsid" "c-ctty f-fork w-wait h- V-" with inOrder := true },
    { needing 1 "stdbuf" "i=input o=output e=error" with
      refusal := 125
      inOrder := true },
    { of "xargs" ("0-null a=arg-file d=delimiter E= e~eof I= i~replace L=max-lines l~ n=max-args "
        ++ "P=max-procs p-interactive r-no-run-if-empty s=max-chars t-verbose x-exit -show-limits "
        ++ "o-open-tty") with
      inOrder := true } ]

/-- The manner of a utility, if it is known. -/
def ofName? (name : String) : Option Manner :=
  (texts ++ files ++ others ++ launchers).find? (·.names.contains name)

/-- The options and operands in the words for a utility, or what it complains about. -/
def separate? (m : Manner) (words : List String) :
    Except String (List Switch.Given × List String) := do
  let (given, operands) ←
    Switch.separate? m.switches m.inOrder m.negative m.number (words.length + 1) words
  let asksForHelp := given.any fun (switch, _) => switch.name = "help" || switch.name = "version"
  if asksForHelp then return (given, operands)
  else if operands.length < m.least then throw "missing operand"
  else if m.most.any (· < operands.length) then
    throw ("extra operand '" ++ (operands.getLast?).getD "" ++ "'")
  else return (given, operands)

end Manner

end FunctionHost.Rehearsal.Shell
