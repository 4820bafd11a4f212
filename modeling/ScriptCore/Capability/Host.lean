import ScriptCore.Capability.Path

set_option autoImplicit false

/-! # The host the engine runs on

The library looks paths up on any `HostView`; the engine looks them up on `Host.standard`, a
stand-in for the machine it runs on, as far as a script can see it. It is scaffolding, not part
of the engine: a Linux root written out as a table, with `/bin`, `/lib`, `/lib64` and `/sbin` merged into
`/usr`, the common programs of `/usr/bin`, the device files of `/dev`, a few files of `/etc`,
and the process file systems `/proc` and `/sys`. `/proc/self` leads to the running process,
whose `cwd` leads to the working directory and whose `root` leads to `/`. Every other name of
the host is missing. A host file opens, and reads as empty: `/dev/null` is empty, and the
contents of the others are outside what an engine is shown. The controlling terminal
`/dev/tty` does not open, as the engine runs without one. The working directory lies in `/tmp`
under a name no path can spell; names longer than 255 bytes are refused everywhere but under
`/proc` and `/sys`, and one look-up follows at most 40 links, as on Linux. -/

namespace ScriptCore

namespace Host

/-- Entries of one kind under names. -/
def named (node : HostNode) (names : List String) : List (String × HostNode) :=
  names.map (·, node)

/-- The entries of the root: its directories, and the links of the directories merged into
`/usr`. -/
def rootEntries : List (String × HostNode) :=
  named .directory ["boot", "dev", "etc", "home", "media", "mnt", "opt", "proc", "root", "run",
    "srv", "sys", "tmp", "usr", "var"] ++
  [("bin", .symlink "usr/bin"), ("lib", .symlink "usr/lib"), ("lib64", .symlink "usr/lib64"),
    ("sbin", .symlink "usr/sbin")]

/-- The entries of `/usr`. -/
def sharedEntries : List (String × HostNode) :=
  named .directory ["bin", "games", "include", "lib", "lib64", "libexec", "local", "sbin",
    "share", "src"]

/-- The programs of `/usr/bin` that every Debian-style system has: the shells, with `sh` a
link to `dash`, and the core utilities. -/
def programs : List (String × HostNode) :=
  named .file ["[", "basename", "bash", "cat", "chmod", "chown", "cp", "cut", "dash", "date",
    "dd", "df", "dirname", "du", "echo", "env", "expr", "false", "find", "grep", "head", "id",
    "kill", "ln", "ls", "mkdir", "mktemp", "mv", "nproc", "od", "perl", "printf", "pwd",
    "readlink", "rm", "rmdir", "sed", "seq", "sleep", "sort", "stat", "tail", "tar", "tee", "test",
    "touch", "tr", "true", "uname", "uniq", "wc", "whoami", "xargs", "yes"] ++
  [("sh", .symlink "dash")]

/-- The entries of `/usr/local`. -/
def localEntries : List (String × HostNode) :=
  named .directory ["bin", "etc", "games", "include", "lib", "man", "sbin", "share", "src"]

/-- The entries of `/var`, whose `run` and `lock` lead into `/run`. -/
def variableEntries : List (String × HostNode) :=
  named .directory ["backups", "cache", "lib", "local", "log", "mail", "opt", "spool", "tmp"] ++
  [("lock", .symlink "/run/lock"), ("run", .symlink "/run")]

/-- The entries of `/dev`: the data devices, the controlling terminal, which a process run
without one cannot open, the descriptors of the process, and the mounts for shared memory,
terminals and message queues. -/
def devices : List (String × HostNode) :=
  named .file ["full", "null", "random", "urandom", "zero"] ++ [("tty", .absentDevice)] ++
  named .directory ["mqueue", "pts", "shm"] ++
  [("fd", .symlink "/proc/self/fd"), ("stdin", .symlink "/proc/self/fd/0"),
    ("stdout", .symlink "/proc/self/fd/1"), ("stderr", .symlink "/proc/self/fd/2")]

/-- The entries of `/etc` that every Linux system has. -/
def settingsFiles : List (String × HostNode) :=
  named .file ["group", "hostname", "hosts", "passwd", "resolv.conf", "shadow"] ++
  [("mtab", .symlink "../proc/self/mounts"), ("os-release", .symlink "../usr/lib/os-release")]

/-- The entries of `/proc`: the running process as `self`, the first process, the kernel's
tables, and the links into the running process. -/
def kernelEntries : List (String × HostNode) :=
  named .directory ["1", "driver", "fs", "sys", "tty"] ++
  named .file ["cmdline", "cpuinfo", "devices", "filesystems", "loadavg", "meminfo", "partitions",
    "stat", "swaps", "uptime", "version"] ++
  [("self", .jump (.process [])), ("thread-self", .jump (.process [])),
    ("mounts", .symlink "self/mounts"), ("net", .symlink "self/net")]

/-- The entries of `/sys`. -/
def systemEntries : List (String × HostNode) :=
  named .directory ["block", "bus", "class", "dev", "devices", "firmware", "fs", "kernel",
    "module", "power"]

/-- Entries placed in a directory. -/
def within (dir : List String) (entries : List (String × HostNode)) :
    List (List String × HostNode) :=
  entries.map fun (name, node) => (dir ++ [name], node)

/-- The known entries of the host, each by its components from the root. -/
def tree : List (List String × HostNode) :=
  within [] rootEntries ++ within ["usr"] sharedEntries ++ within ["usr", "bin"] programs ++
  within ["usr", "local"] localEntries ++
  within ["usr", "lib"] (named .file ["os-release"]) ++ within ["var"] variableEntries ++
  within ["run"] (named .directory ["lock"]) ++ within ["dev"] devices ++
  within ["etc"] settingsFiles ++ within ["proc"] kernelEntries ++ within ["sys"] systemEntries

/-- The entries of the running process's directory, each by its components below it: its
working directory and root as links, its descriptors, and its tables. -/
def processTree : List (List String × HostNode) :=
  within [] ([("cwd", .jump (.inside [])), ("root", .jump (.host [])), ("exe", .heldFile)] ++
    named .directory ["fd", "fdinfo", "net", "ns", "task"] ++
    named .file ["cgroup", "cmdline", "comm", "environ", "io", "limits", "maps", "mountinfo",
      "mounts", "stat", "statm", "status"]) ++
  within ["fd"] (named .heldFile ["0", "1", "2"])

/-- What stands at some components of a table; no components name its top directory. -/
def lookup (table : List (List String × HostNode)) (cs : List String) : Option HostNode :=
  if cs.isEmpty then some .directory else (table.find? (·.1 == cs)).map (·.2)

/-- The machine the engine runs on, as a look-up sees it. -/
def standard : HostView where
  entry := lookup tree
  processEntry := lookup processTree
  workParent := ["tmp"]
  limitsNames
    | "proc" :: _ | "sys" :: _ => false
    | _ => true
  maxLinks := 40

end Host

/-- What a path names on the machine the engine runs on. -/
def FileSystem.resolve (fs : FileSystem) (path : String) : Except IoError Node :=
  fs.resolveOn Host.standard path

end ScriptCore
