import Ensemble.Machine.Tree

/-!
# Ensemble.Machine.Furniture

What stands in the **file tree of a new machine**: directories, devices, what leads to the descriptors
and the directory of the process that asks, and the lists of users, groups and shells.
-/

namespace Ensemble

namespace Tree

/-- The descriptors that have a name. -/
def descriptorNames : List (Route × Body) :=
  (List.range 64).map fun n => (["proc", "self", "fd", toString n], .descriptor n)

/-- The time of everything on a machine on which nothing has been done yet. -/
def firstTime : Int := 1704067200000000

/-- The directories, and those that anyone may write to. -/
def firstDirectories : List Route × List Route :=
  ([["boot"], ["dev"], ["dev", "pts"], ["etc"], ["etc", "profile.d"], ["home"], ["media"], ["mnt"],
    ["opt"], ["proc"], ["proc", "self"], ["proc", "self", "fd"], ["proc", "sys"],
    ["proc", "sys", "kernel"], ["root"], ["run"], ["srv"], ["sys"], ["usr"], ["usr", "bin"],
    ["usr", "games"], ["usr", "include"], ["usr", "lib"], ["usr", "lib64"], ["usr", "local"],
    ["usr", "local", "bin"], ["usr", "local", "etc"], ["usr", "local", "include"],
    ["usr", "local", "lib"], ["usr", "local", "sbin"], ["usr", "local", "share"],
    ["usr", "local", "src"], ["usr", "sbin"], ["usr", "share"], ["usr", "src"], ["var"],
    ["var", "backups"], ["var", "cache"], ["var", "lib"], ["var", "log"], ["var", "mail"],
    ["var", "opt"], ["var", "spool"]],
  [["dev", "shm"], ["tmp"], ["var", "tmp"]])

def firstLinks : List (Route × String) :=
  [(["bin"], "usr/bin"), (["dev", "fd"], "/proc/self/fd"), (["dev", "stderr"], "/proc/self/fd/2"),
    (["dev", "stdin"], "/proc/self/fd/0"), (["dev", "stdout"], "/proc/self/fd/1"),
    (["lib"], "usr/lib"), (["lib64"], "usr/lib64"), (["proc", "self", "exe"], "/usr/bin/dash"),
    (["proc", "self", "root"], "/"), (["sbin"], "usr/sbin"), (["var", "lock"], "/run/lock"),
    (["var", "run"], "/run")]

def firstDevices : List (Route × Device) :=
  [(["dev", "full"], .full), (["dev", "null"], .null), (["dev", "random"], .zero),
    (["dev", "tty"], .terminal), (["dev", "urandom"], .zero), (["dev", "zero"], .zero)]

/-- The users: name, number, group, full name, home, and the program that they are served by. -/
def users : List (String × Nat × Nat × String × String × String) :=
  let nobody := "/usr/sbin/nologin"
  [("root", 0, 0, "root", "/root", "/bin/bash"), ("daemon", 1, 1, "daemon", "/usr/sbin", nobody),
    ("bin", 2, 2, "bin", "/bin", nobody), ("sys", 3, 3, "sys", "/dev", nobody),
    ("sync", 4, 65534, "sync", "/bin", "/bin/sync"),
    ("games", 5, 60, "games", "/usr/games", nobody),
    ("man", 6, 12, "man", "/var/cache/man", nobody), ("lp", 7, 7, "lp", "/var/spool/lpd", nobody),
    ("mail", 8, 8, "mail", "/var/mail", nobody), ("news", 9, 9, "news", "/var/spool/news", nobody),
    ("uucp", 10, 10, "uucp", "/var/spool/uucp", nobody), ("proxy", 13, 13, "proxy", "/bin", nobody),
    ("www-data", 33, 33, "www-data", "/var/www", nobody),
    ("backup", 34, 34, "backup", "/var/backups", nobody),
    ("list", 38, 38, "Mailing List Manager", "/var/list", nobody),
    ("irc", 39, 39, "ircd", "/run/ircd", nobody), ("_apt", 42, 65534, "", "/nonexistent", nobody),
    ("nobody", 65534, 65534, "nobody", "/nonexistent", nobody)]

/-- The groups with their numbers. -/
def groups : List (String × Nat) :=
  [("root", 0), ("daemon", 1), ("bin", 2), ("sys", 3), ("adm", 4), ("tty", 5), ("disk", 6), ("lp", 7),
    ("mail", 8), ("news", 9), ("uucp", 10), ("man", 12), ("proxy", 13), ("kmem", 15), ("dialout", 20),
    ("fax", 21), ("voice", 22), ("cdrom", 24), ("floppy", 25), ("tape", 26), ("sudo", 27),
    ("audio", 29), ("dip", 30), ("www-data", 33), ("backup", 34), ("operator", 37), ("list", 38),
    ("irc", 39), ("src", 40), ("shadow", 42), ("utmp", 43), ("video", 44), ("sasl", 45),
    ("plugdev", 46), ("staff", 50), ("games", 60), ("users", 100), ("nogroup", 65534)]

/-- The files and what they hold. -/
def firstFiles : List (Route × String) :=
  let userLine : String × Nat × Nat × String × String × String → String
    | (name, user, group, full, home, program) =>
      ":".intercalate [name, "x", toString user, toString group, full, home, program] ++ "\n"
  let groupLine : String × Nat → String
    | (name, group) => ":".intercalate [name, "x", toString group, ""] ++ "\n"
  [(["etc", "group"], String.join (groups.map groupLine)),
    (["etc", "hostname"], "localhost\n"),
    (["etc", "hosts"], "127.0.0.1\tlocalhost\n"),
    (["etc", "passwd"], String.join (users.map userLine)),
    (["etc", "shells"], "# /etc/shells: valid login shells\n" ++
      String.join (["/bin/sh", "/usr/bin/sh", "/bin/bash", "/usr/bin/bash", "/bin/rbash",
        "/usr/bin/rbash", "/usr/bin/dash", "/bin/dash"].map (· ++ "\n"))),
    (["proc", "sys", "kernel", "hostname"], "localhost\n"),
    (["proc", "sys", "kernel", "ostype"], "Linux\n")]

/-- The tree of a machine on which nothing has been done yet. -/
def initial : Tree :=
  let t : Tree := { nodes := [], now := firstTime }
  let t := firstDirectories.1.foldl (fun t r => t.add r 0o755 .directory) t
  let t := firstDirectories.2.foldl (fun t r => t.add r 0o1777 .directory) t
  let t := t.add ["run", "lock"] 0o1777 .directory
  let t := firstLinks.foldl (fun t (r, target) => t.add r 0o777 (.link target)) t
  let t := t.add ["proc", "self", "cwd"] 0o777 .here
  let t := firstDevices.foldl (fun t (r, d) => t.add r 0o666 (.device d)) t
  let t := descriptorNames.foldl (fun t (r, b) => t.add r 0o700 b) t
  firstFiles.foldl (fun t (r, content) => t.add r 0o644 (.file (Text.Utf8.encode content))) t

end Tree

end Ensemble
