import LinkBus.Ip.Parser
import LinkBus.Text.Blank
import LinkBus.Text.Utf8

/-!
# Resolver and host name files

A resolver file lists name servers and search domains, one statement to a line. Name servers add
up; of several search lists the last one counts. A zone after a percent sign is dropped. Files that
cannot be read say nothing.
-/

namespace LinkBus

/-- What a resolver file says. -/
structure Resolver where
  /-- The addresses of the name servers, in order. -/
  nameservers : List Ip := []
  /-- The search domains, in order. -/
  searches : List String := []
  deriving DecidableEq, Repr

namespace Resolver

/-- The name servers of a family. -/
def ofFamily (c : Resolver) (family : Family) : List Ip :=
  c.nameservers.filter fun ip => ip.family == family

/-- The address of a name server without its zone. -/
def nameserver? (word : List Char) : Option Ip := Ip.parse? (word.takeWhile (· ≠ '%'))

/-- Whether a line is a comment. -/
def isComment (line : List Char) : Bool := line.head? == some '#' || line.head? == some ';'

/-- Takes a statement, given by its words, into account. -/
def addWords (c : Resolver) : List (List Char) → Resolver
  | [] => c
  | keyword :: arguments =>
    if keyword = "nameserver".toList then
      { c with nameservers := c.nameservers ++ (arguments.head?.bind nameserver?).toList }
    else if keyword = "search".toList ∨ keyword = "domain".toList then
      { c with searches := arguments.map String.ofList }
    else c

/-- Takes a line into account. -/
def addLine (c : Resolver) (line : List Char) : Resolver :=
  let line := Text.trim line
  if isComment line then c else c.addWords (Text.words line)

/-- What the text of a resolver file says. -/
def parse (text : List Char) : Resolver := (Text.lines text).foldl addLine {}

/-- What the first of some files says that names a server. The files are given by their bytes,
absent ones as `none`. -/
def readFirst : List (Option (List UInt8)) → Resolver
  | [] => {}
  | file :: rest =>
    match file.bind Text.decodeUtf8? with
    | none => readFirst rest
    | some text =>
      let conf := parse text
      if conf.nameservers.isEmpty then readFirst rest else conf

end Resolver

/-- The host name in a file: its text without the blanks around it. -/
def hostnameOf (file : Option (List UInt8)) : String :=
  match file.bind Text.decodeUtf8? with
  | some text => String.ofList (Text.trim text)
  | none => ""

end LinkBus
