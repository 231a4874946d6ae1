-- SUMMARY: The host on which bootstraps are launched: a small system with the usual programs.
import FunctionHost.Rehearsal.Host.Tree

/-! # The standard host

A host has the usual directories and a few files. Its programs are in one directory, to which an
older name is a link. Nothing of it is specific to functions: none of the paths where a bootstrap
is looked for by default leads anywhere. -/

namespace FunctionHost.Rehearsal.Host

/-- The directories below the root, apart from links. -/
def standardDirectories : List Place :=
  let below (place : Place) (names : List String) : List Place := names.map (place ++ [·])
  below [] ["boot", "dev", "etc", "home", "media", "mnt", "opt", "proc", "root", "run", "srv",
      "sys", "tmp", "usr", "var", "work"]
    ++ below ["dev"] ["fd", "mqueue", "pts", "shm"]
    ++ below ["etc"] ["alternatives", "apt", "cron.d", "cron.daily", "default", "dpkg", "init.d",
      "kernel", "ld.so.conf.d", "logrotate.d", "opt", "pam.d", "profile.d", "rc0.d", "rc1.d",
      "rc2.d", "rc3.d", "rc4.d", "rc5.d", "rc6.d", "rcS.d", "security", "selinux", "skel",
      "systemd", "terminfo", "update-motd.d"]
    ++ below ["proc"] ["1", "bus", "fs", "irq", "self", "sys"]
    ++ below ["run"] ["lock"]
    ++ below ["sys"] ["block", "bus", "class", "dev", "devices", "firmware", "fs", "kernel",
      "module", "power"]
    ++ below ["usr"] ["bin", "games", "include", "lib", "lib64", "libexec", "local", "sbin",
      "share", "src"]
    ++ below ["usr", "local"] ["bin", "etc", "games", "include", "lib", "sbin", "share", "src"]
    ++ below ["usr", "share"] ["doc", "man"]
    ++ below ["var"] ["backups", "cache", "lib", "local", "log", "mail", "opt", "spool", "tmp"]

/-- The links, with the places that they lead to and the paths that are written in them. -/
def standardLinks : List (Place × Place × String) :=
  [ (["bin"], ["usr", "bin"], "usr/bin"), (["sbin"], ["usr", "sbin"], "usr/sbin"),
    (["lib"], ["usr", "lib"], "usr/lib"), (["lib64"], ["usr", "lib64"], "usr/lib64"),
    (["var", "run"], ["run"], "/run"), (["var", "lock"], ["run", "lock"], "/run/lock"),
    (["usr", "bin", "sh"], ["usr", "bin", "dash"], "dash"),
    (["usr", "bin", "rbash"], ["usr", "bin", "bash"], "bash") ]

/-- The users, with their numbers, the numbers of their groups, their directories and programs. -/
def standardUsers : List (String × Nat × Nat × String × String) :=
  let refusing := "/usr/sbin/nologin"
  [ ("root", 0, 0, "/root", "/bin/bash"), ("daemon", 1, 1, "/usr/sbin", refusing),
    ("bin", 2, 2, "/bin", refusing), ("sys", 3, 3, "/dev", refusing),
    ("sync", 4, 65534, "/bin", "/bin/sync"), ("games", 5, 60, "/usr/games", refusing),
    ("man", 6, 12, "/var/cache/man", refusing), ("lp", 7, 7, "/var/spool/lpd", refusing),
    ("mail", 8, 8, "/var/mail", refusing), ("news", 9, 9, "/var/spool/news", refusing),
    ("uucp", 10, 10, "/var/spool/uucp", refusing), ("proxy", 13, 13, "/bin", refusing),
    ("www-data", 33, 33, "/var/www", refusing), ("backup", 34, 34, "/var/backups", refusing),
    ("list", 38, 38, "/var/list", refusing), ("irc", 39, 39, "/run/ircd", refusing),
    ("_apt", 42, 65534, "/nonexistent", refusing),
    ("nobody", 65534, 65534, "/nonexistent", refusing) ]

/-- The groups, with their numbers. -/
def standardGroups : List (String × Nat) :=
  [ ("root", 0), ("daemon", 1), ("bin", 2), ("sys", 3), ("adm", 4), ("tty", 5), ("disk", 6),
    ("lp", 7), ("mail", 8), ("news", 9), ("uucp", 10), ("man", 12), ("proxy", 13), ("kmem", 15),
    ("dialout", 20), ("fax", 21), ("voice", 22), ("cdrom", 24), ("floppy", 25), ("tape", 26),
    ("sudo", 27), ("audio", 29), ("dip", 30), ("www-data", 33), ("backup", 34), ("operator", 37),
    ("list", 38), ("irc", 39), ("src", 40), ("shadow", 42), ("utmp", 43), ("video", 44),
    ("sasl", 45), ("plugdev", 46), ("staff", 50), ("games", 60), ("users", 100),
    ("nogroup", 65534) ]

/-- The list of users, a line for each. -/
def userList : String :=
  String.join (standardUsers.map fun (name, uid, gid, directory, program) =>
    let fields := [name, "x", toString uid, toString gid, name, directory, program]
    String.intercalate ":" fields ++ "\n")

/-- The list of groups, a line for each. -/
def groupList : String :=
  String.join (standardGroups.map fun (name, gid) => name ++ ":x:" ++ toString gid ++ ":\n")

/-- The list of passwords, none of which lets anyone in. -/
def passwordList : String :=
  String.join (standardUsers.map fun (name, _) => name ++ ":*:19600:0:99999:7:::\n")

/-- The files that are no programs, with their content. -/
def standardFiles : List (Place × String) :=
  let inEtc (name content : String) : Place × String := (["etc", name], content)
  let inProc (name content : String) : Place × String := (["proc", name], content)
  [ inEtc "passwd" userList, inEtc "passwd-" userList, inEtc "group" groupList,
    inEtc "group-" groupList, inEtc "shadow" passwordList, inEtc "shadow-" passwordList,
    inEtc "gshadow" "root:*::\n", inEtc "gshadow-" "root:*::\n", inEtc "hostname" "host\n",
    inEtc "hosts" "127.0.0.1\tlocalhost\n::1\tlocalhost ip6-localhost ip6-loopback\n",
    inEtc "resolv.conf" "nameserver 127.0.0.1\n", inEtc "fstab" "# no devices\n",
    inEtc "profile" "# for shells\n", inEtc "issue" "Linux \\n \\l\n\n",
    inEtc "issue.net" "Linux\n", inEtc "motd" "\n", inEtc "os-release" "ID=linux\n",
    inEtc "shells" "/bin/sh\n/usr/bin/sh\n/bin/bash\n/usr/bin/bash\n",
    inEtc "nsswitch.conf" "passwd: files\n", inEtc "environment" "",
    inEtc "bash.bashrc" "# for shells\n", inEtc "debian_version" "12.5\n",
    inEtc "login.defs" "UMASK 022\n", inEtc "host.conf" "multi on\n", inEtc "machine-id" "",
    inEtc "ld.so.conf" "include /etc/ld.so.conf.d/*.conf\n", inEtc "ld.so.cache" "",
    inEtc "localtime" "", inEtc "timezone" "Etc/UTC\n", inEtc "mtab" "", inEtc "subuid" "",
    inEtc "subgid" "", inEtc "pam.conf" "", inEtc "debconf.conf" "", inEtc "deluser.conf" "",
    inEtc "adduser.conf" "", inEtc "gai.conf" "", inEtc "libaudit.conf" "", inEtc "xattr.conf" "",
    inEtc "e2scrub.conf" "", inEtc "mke2fs.conf" "", inEtc "bindresvport.blacklist" "",
    inProc "version" "Linux version 6.1.0\n", inProc "cpuinfo" "processor\t: 0\n",
    inProc "meminfo" "MemTotal: 1000000 kB\n", inProc "uptime" "1000.00 1000.00\n",
    inProc "loadavg" "0.00 0.00 0.00 1/100 1000\n", inProc "mounts" "overlay / overlay rw 0 0\n",
    inProc "cmdline" "quiet\n", inProc "filesystems" "nodev\tproc\n", inProc "stat" "cpu 0\n",
    (["root", ".bashrc"], "# for shells\n"), (["root", ".profile"], "# for shells\n") ]

/-- The devices, which swallow what is written to them. -/
def deviceNames : List String :=
  ["full", "null", "ptmx", "random", "stderr", "stdin", "stdout", "tty", "urandom", "zero"]

/-- The names of the shells, apart from links. -/
def shellNames : List String :=
  ["dash", "bash"]

/-- The names of the other programs. -/
def toolNames : List String :=
  [ "[", "apt", "apt-cache", "apt-cdrom", "apt-config", "apt-get", "apt-key", "apt-mark", "arch",
    "awk", "b2sum", "base32", "base64", "basename", "basenc", "captoinfo", "cat", "chage",
    "chattr", "chcon", "chfn", "chgrp", "chmod", "choom", "chown", "chrt", "chsh", "cksum",
    "clear", "clear_console", "cmp", "comm", "cp", "csplit", "cut", "date", "dd",
    "deb-systemd-helper", "debconf", "delpart", "df", "diff", "diff3", "dir", "dircolors",
    "dirname", "dmesg", "dnsdomainname", "domainname", "dpkg", "dpkg-deb", "dpkg-divert",
    "dpkg-query", "dpkg-split", "dpkg-trigger", "du", "echo", "egrep", "env", "expand", "expiry",
    "expr", "factor", "faillog", "fallocate", "false", "fgrep", "fincore", "find", "findmnt",
    "flock", "fmt", "fold", "getconf", "getent", "getopt", "gpasswd", "grep", "groups", "gunzip",
    "gzexe", "gzip", "hardlink", "head", "hostid", "hostname", "i386", "iconv", "id", "infocmp",
    "infotocap", "install", "ionice", "ipcmk", "ipcrm", "ipcs", "ischroot", "join", "kill", "last",
    "lastb", "lastlog", "ldd", "link", "linux32", "linux64", "ln", "locale", "localedef", "logger",
    "login", "logname", "ls", "lsattr", "lsblk", "lscpu", "lsipc", "lslocks", "lslogins", "lsmem",
    "lsns", "mawk", "mcookie", "md5sum", "mesg", "mkdir", "mkfifo", "mknod", "mktemp", "more",
    "mount", "mountpoint", "mv", "namei", "nawk", "newgrp", "nice", "nisdomainname", "nl", "nohup",
    "nproc", "nsenter", "numfmt", "od", "partx", "passwd", "paste", "pathchk", "perl", "pinky",
    "pldd", "pr", "printenv", "printf", "prlimit", "ptx", "pwd", "readlink", "realpath",
    "rename.ul", "renice", "reset", "resizepart", "rev", "rgrep", "rm", "rmdir", "run-parts",
    "runcon", "savelog", "script", "scriptlive", "scriptreplay", "sdiff", "sed", "select-editor",
    "seq", "setarch", "setpriv", "setsid", "setterm", "sg", "sha1sum", "sha224sum", "sha256sum",
    "sha384sum", "sha512sum", "shred", "shuf", "sleep", "sort", "split", "stat", "stdbuf", "stty",
    "su", "sum", "sync", "tabs", "tac", "tail", "tar", "taskset", "tee", "tempfile", "test", "tic",
    "timeout", "toe", "touch", "tput", "tr", "true", "truncate", "tset", "tsort", "tty",
    "tzselect", "umount", "uname", "uncompress", "unexpand", "uniq", "unlink", "unshare",
    "update-alternatives", "users", "utmpdump", "vdir", "wall", "wc", "wdctl", "whereis", "which",
    "who", "whoami", "x86_64", "xargs", "yes", "ypdomainname", "zcat", "zcmp", "zdiff", "zdump",
    "zegrep", "zfgrep", "zforce", "zgrep", "zless", "zmore", "znew" ]

/-- The standard host. -/
def Tree.standard : Tree :=
  ⟨standardDirectories.map (fun place => (place, .directory))
    ++ standardLinks.map (fun (place, target, path) => (place, .link target path))
    ++ standardFiles.map (fun (place, content) => (place, .file content.toList false))
    ++ deviceNames.map (fun name => (["dev", name], .void))
    ++ (shellNames ++ toolNames).map (fun name => (["usr", "bin", name], .program name))⟩

/-- The directory in which programs are started unless another one is asked for. -/
def startingPlace : Place :=
  ["work"]

end FunctionHost.Rehearsal.Host
