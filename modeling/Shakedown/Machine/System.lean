import Shakedown.Machine.Basic

/-!
# The programs of a system

The file tree of a usual system: its directories, the programs that are found there, the devices,
and the few files that every process can expect.
-/

set_option autoImplicit false

namespace Shakedown

namespace Machine

/-- The names of the programs of the system. -/
def programNames : List String :=
  ["[", "base64", "basename", "bash", "cat", "chgrp", "chmod", "chown", "cksum", "cmp", "comm", "cp",
    "cut", "dash", "date", "dd", "diff", "dirname", "echo", "egrep", "env", "expand", "expr",
    "false", "fgrep", "find", "fold", "gcc", "grep", "head", "id", "install", "join", "kill",
    "ln", "ls", "make", "mawk", "md5sum", "mkdir", "mktemp", "mv", "nice", "nl", "nohup", "nproc",
    "od", "paste", "printenv", "printf", "pwd", "readlink", "realpath", "rev", "rm", "rmdir",
    "sed", "seq", "sha1sum", "sha256sum", "sleep", "sort", "split", "stat", "sum", "sync", "tac",
    "tail", "tee", "test", "timeout", "touch", "tr", "true", "tsort", "tty", "uname", "unexpand",
    "uniq", "unlink", "wc", "which", "whoami", "xargs", "yes"]

/-- Names of programs that are symbolic links to others. -/
def programLinks : List (String × String) :=
  [("sh", "dash"), ("cc", "gcc"), ("awk", "mawk")]

/-- The location that a path from the root names. -/
def location (path : String) : Location :=
  (PathLetter.segments (Utf8.bytes path)).filter (· ≠ [])

/-- The directories of a usual system. -/
def usualDirectories : List String :=
  ["/boot", "/dev", "/dev/fd", "/dev/pts", "/dev/shm", "/etc", "/etc/default", "/home", "/media",
    "/mnt", "/opt", "/proc", "/proc/self", "/proc/self/fd", "/root", "/run", "/srv", "/sys", "/tmp",
    "/usr", "/usr/bin", "/usr/games", "/usr/include", "/usr/lib", "/usr/lib64", "/usr/libexec",
    "/usr/local", "/usr/local/bin", "/usr/local/etc", "/usr/local/include", "/usr/local/lib",
    "/usr/local/sbin", "/usr/local/share", "/usr/local/src", "/usr/sbin", "/usr/share", "/usr/src",
    "/var", "/var/cache", "/var/lib", "/var/log", "/var/spool", "/var/tmp"]

/-- Directories that are symbolic links to others. -/
def directoryLinks : List (String × String) :=
  [("/bin", "usr/bin"), ("/lib", "usr/lib"), ("/lib64", "usr/lib64"), ("/sbin", "usr/sbin")]

/-- The devices. -/
def devices : List (String × Device) :=
  [("/dev/null", .null), ("/dev/zero", .zero), ("/dev/full", .full), ("/dev/random", .random),
    ("/dev/urandom", .random), ("/dev/tty", .terminal), ("/dev/stdin", .descriptor 0),
    ("/dev/stdout", .descriptor 1), ("/dev/stderr", .descriptor 2)]

/-- How many descriptors have a name of their own. -/
def namedDescriptors : Nat := 10

/-- What every process can read about itself. -/
def portraits : List (String × SelfPortrait) :=
  [("/proc/self/comm", .name), ("/proc/self/cmdline", .words),
    ("/proc/self/environ", .environment)]

/-- The files of a usual system that programs read. -/
def usualFiles : List (String × String) :=
  [("/etc/passwd",
      "root:x:0:0:root:/root:/bin/bash\n"
        ++ "daemon:x:1:1:daemon:/usr/sbin:/usr/sbin/nologin\n"
        ++ "bin:x:2:2:bin:/bin:/usr/sbin/nologin\n"
        ++ "sys:x:3:3:sys:/dev:/usr/sbin/nologin\n"
        ++ "sync:x:4:65534:sync:/bin:/bin/sync\n"
        ++ "games:x:5:60:games:/usr/games:/usr/sbin/nologin\n"
        ++ "man:x:6:12:man:/var/cache/man:/usr/sbin/nologin\n"
        ++ "lp:x:7:7:lp:/var/spool/lpd:/usr/sbin/nologin\n"
        ++ "mail:x:8:8:mail:/var/mail:/usr/sbin/nologin\n"
        ++ "news:x:9:9:news:/var/spool/news:/usr/sbin/nologin\n"
        ++ "uucp:x:10:10:uucp:/var/spool/uucp:/usr/sbin/nologin\n"
        ++ "proxy:x:13:13:proxy:/bin:/usr/sbin/nologin\n"
        ++ "www-data:x:33:33:www-data:/var/www:/usr/sbin/nologin\n"
        ++ "backup:x:34:34:backup:/var/backups:/usr/sbin/nologin\n"
        ++ "list:x:38:38:Mailing List Manager:/var/list:/usr/sbin/nologin\n"
        ++ "irc:x:39:39:ircd:/run/ircd:/usr/sbin/nologin\n"
        ++ "_apt:x:42:65534::/nonexistent:/usr/sbin/nologin\n"
        ++ "nobody:x:65534:65534:nobody:/nonexistent:/usr/sbin/nologin\n"),
    ("/etc/group", "root:x:0:\n"), ("/etc/hostname", "localhost\n"),
    ("/etc/hosts", "127.0.0.1\tlocalhost\n"), ("/etc/shells", "/bin/sh\n"),
    ("/etc/os-release", "ID=debian\n")]

/-- A tree with what a list tells of put into it. -/
def putAll {α : Type} (put : FileTree → Location → α → FileTree) (t : FileTree)
    (l : List (String × α)) : FileTree :=
  l.foldl (fun t (place, a) => put t (location place) a) t

/-- Puts a device into a tree. -/
def putDevice (t : FileTree) (l : Location) (d : Device) : FileTree :=
  t.putFile l { mode := 0o666, content := .device d }

/-- Directories with permission bits of their own. -/
def directoryModes : List (String × Nat) :=
  [("/tmp", 0o1777), ("/var/tmp", 0o1777), ("/dev/shm", 0o1777), ("/root", 0o700)]

/-- The directory of the programs. -/
def programDirectory : String := "/usr/bin/"

/-- The file tree of a usual system. -/
def usualSystem : FileTree :=
  let t := usualDirectories.foldl (fun t d => t.putDirectories (location d)) {}
  let t := putAll (fun t l mode => t.put l (.directory mode beginning)) t directoryModes
  let t := putAll (fun t l target => t.put l (.link (Utf8.bytes target))) t
    (directoryLinks ++ programLinks.map fun (name, goal) => (programDirectory ++ name, goal))
  let t := putAll putDevice t devices
  let t := putAll putDevice t <| (List.range namedDescriptors).flatMap fun n =>
    [("/dev/fd/" ++ n.repr, .descriptor n), ("/proc/self/fd/" ++ n.repr, .descriptor n)]
  let t := putAll (fun t l p => t.putFile l { mode := 0o444, content := .portrait p }) t portraits
  let t := putAll (fun t l text =>
    t.putFile l { mode := 0o644, content := .data (Utf8.bytes text) }) t usualFiles
  putAll (fun t l name => t.putFile l { mode := 0o755, content := .program name }) t
    (programNames.map fun name => (programDirectory ++ name, name))

end Machine

end Shakedown
