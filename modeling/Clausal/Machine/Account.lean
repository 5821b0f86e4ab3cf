import Clausal.Text.Utf8

/-!
# Accounts

Users and groups are numbers; most of those that a machine has from the start also have a name.
-/

namespace Clausal.Machine

open Text (Octets)

/-- A user who is known by a name. -/
structure Account where
  name : String
  number : Nat
  group : Nat
  fullName : String
  home : String
  shell : String
  deriving DecidableEq, Repr

namespace Account

def all : List Account :=
  let idle := "/usr/sbin/nologin"
  [⟨"root", 0, 0, "root", "/root", "/bin/bash"⟩,
    ⟨"daemon", 1, 1, "daemon", "/usr/sbin", idle⟩,
    ⟨"bin", 2, 2, "bin", "/bin", idle⟩,
    ⟨"sys", 3, 3, "sys", "/dev", idle⟩,
    ⟨"sync", 4, 65534, "sync", "/bin", "/bin/sync"⟩,
    ⟨"games", 5, 60, "games", "/usr/games", idle⟩,
    ⟨"man", 6, 12, "man", "/var/cache/man", idle⟩,
    ⟨"lp", 7, 7, "lp", "/var/spool/lpd", idle⟩,
    ⟨"mail", 8, 8, "mail", "/var/mail", idle⟩,
    ⟨"news", 9, 9, "news", "/var/spool/news", idle⟩,
    ⟨"uucp", 10, 10, "uucp", "/var/spool/uucp", idle⟩,
    ⟨"proxy", 13, 13, "proxy", "/bin", idle⟩,
    ⟨"www-data", 33, 33, "www-data", "/var/www", idle⟩,
    ⟨"backup", 34, 34, "backup", "/var/backups", idle⟩,
    ⟨"list", 38, 38, "Mailing List Manager", "/var/list", idle⟩,
    ⟨"irc", 39, 39, "ircd", "/run/ircd", idle⟩,
    ⟨"_apt", 42, 65534, "", "/nonexistent", idle⟩,
    ⟨"nobody", 65534, 65534, "nobody", "/nonexistent", idle⟩]

def groups : List (String × Nat) :=
  [("root", 0), ("daemon", 1), ("bin", 2), ("sys", 3), ("adm", 4), ("tty", 5), ("disk", 6),
    ("lp", 7), ("mail", 8), ("news", 9), ("uucp", 10), ("man", 12), ("proxy", 13), ("kmem", 15),
    ("dialout", 20), ("fax", 21), ("voice", 22), ("cdrom", 24), ("floppy", 25), ("tape", 26),
    ("sudo", 27), ("audio", 29), ("dip", 30), ("www-data", 33), ("backup", 34),
    ("operator", 37), ("list", 38), ("irc", 39), ("src", 40), ("shadow", 42), ("utmp", 43),
    ("video", 44), ("sasl", 45), ("plugdev", 46), ("staff", 50), ("games", 60), ("users", 100),
    ("nogroup", 65534)]

def named? (name : Octets) : Option Account :=
  all.find? fun account => account.name.toList == name

def numbered? (number : Nat) : Option Account :=
  all.find? fun account => account.number == number

def groupNamed? (name : Octets) : Option Nat :=
  (groups.find? fun group => group.1.toList == name).map Prod.snd

def groupName? (number : Nat) : Option String :=
  (groups.find? fun group => group.2 == number).map Prod.fst

/-- The name of a user, or the number if there is no name. -/
def shownUser (number : Nat) : Octets :=
  match numbered? number with
  | some account => account.name.toList
  | none => Nat.toDigits 10 number

/-- The name of a group, or the number if there is no name. -/
def shownGroup (number : Nat) : Octets :=
  match groupName? number with
  | some name => name.toList
  | none => Nat.toDigits 10 number

def userTable : String :=
  String.join (all.map fun account =>
    s!"{account.name}:x:{account.number}:{account.group}:{account.fullName}:" ++
      s!"{account.home}:{account.shell}\n")

def groupTable : String :=
  String.join (groups.map fun (name, number) => s!"{name}:x:{number}:\n")

end Account

end Clausal.Machine
